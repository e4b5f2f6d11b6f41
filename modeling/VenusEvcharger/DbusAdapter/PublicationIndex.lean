import VenusEvcharger.DbusAdapter.PublicationRegistry

/-!
# The update index of published services

A client may read the values of a service only when its update index has changed. `Follows` says that such a client
misses nothing after a successful publication, and `update_index_follows_iff` which publications break it: the ones
that change no recorded value after a publication that raised midway.

Scope: as in the registry. A publication is a request for a service that is registered.
-/

namespace VenusEvcharger

open Library

/-- A client that reads the values at every new update index holds the visible values. -/
def DbusServiceLike.Seen (s : DbusServiceLike) : Prop := ∀ path, s.polled.get? path = s.values.get? path

theorem DbusServiceLike.seen_moved {s : DbusServiceLike} {index : Nat} (h : index ≠ s.updateIndex) :
    (s.moved index).Seen := by
  unfold moved
  rw [if_neg h]
  exact fun path => rfl

namespace RegisteredPublicationService

variable {r : RegisteredPublicationService} {specs : PublicationSpecs} {bus : BusBehavior}
  {fields : List (String × Value)}

/-- The value of a field differs from the recorded one. -/
def Differs (r : RegisteredPublicationService) (specs : PublicationSpecs) (e : String × Value) : Prop :=
  ∃ spec, specs.get? e.1 = some spec ∧ r.holds spec.path e.2 = false

/-- A field differs from its recorded value. -/
def Changes (r : RegisteredPublicationService) (specs : PublicationSpecs) (fields : CommandPayload) : Prop :=
  ∃ e ∈ fields.entries, r.Differs specs e

/-- Every field is known. -/
def Known (specs : PublicationSpecs) (fields : CommandPayload) : Prop := ∀ field ∈ fields.keys, specs.contains field = true

theorem validateFields_of_known {fields : CommandPayload} {surface : String} (h : Known specs fields) :
    validateFields fields specs surface = .ok fields := by
  have hnone : (fields.keys.filter fun field => !specs.contains field) = [] := by
    refine List.filter_eq_nil_iff.mpr fun field hfield => ?_
    simp [h field hfield]
  unfold validateFields
  rw [hnone]
  rfl

theorem known_of_validateFields {fields normalized : CommandPayload} {surface : String}
    (h : validateFields fields specs surface = .ok normalized) : Known specs fields ∧ normalized = fields := by
  unfold validateFields at h
  dsimp only at h
  split_ifs at h with hunknown
  refine ⟨fun field hfield => ?_, (Except.ok.inj h).symm⟩
  by_contra hnot
  have hmem : field ∈ (fields.keys.filter fun field => !specs.contains field).insertionSort (· ≤ ·) := by
    rw [List.mem_insertionSort, List.mem_filter]
    exact ⟨hfield, by simpa using hnot⟩
  rw [List.isEmpty_iff.mp hunknown] at hmem
  exact absurd hmem List.not_mem_nil

/-- Without a difference the loop sets nothing. -/
theorem publishLoop_unchanged (hknown : ∀ e ∈ fields, specs.contains e.1 = true)
    (hsame : ∀ e ∈ fields, ¬ r.Differs specs e) (changed : Bool) :
    publishLoop specs bus fields r changed = (r, some changed) := by
  induction fields with
  | nil => rfl
  | cons e rest ih =>
    obtain ⟨field, value⟩ := e
    obtain ⟨spec, hspec⟩ := Option.isSome_iff_exists.mp (hknown (field, value) List.mem_cons_self)
    have hholds : r.holds spec.path value = true := by
      by_contra hnot
      exact hsame (field, value) List.mem_cons_self ⟨spec, hspec, by simpa using hnot⟩
    unfold publishLoop
    simp only [hspec, hholds, if_true]
    exact ih (fun e he => hknown e (List.mem_cons_of_mem _ he)) fun e he => hsame e (List.mem_cons_of_mem _ he)

theorem publishLoop_index (specs : PublicationSpecs) (bus : BusBehavior) (fields : List (String × Value))
    (r : RegisteredPublicationService) (changed : Bool) :
    (publishLoop specs bus fields r changed).1.updateIndex = r.updateIndex ∧
      (publishLoop specs bus fields r changed).1.service.updateIndex = r.service.updateIndex := by
  induction fields generalizing r changed with
  | nil => exact ⟨rfl, rfl⟩
  | cons e rest ih =>
    obtain ⟨field, value⟩ := e
    unfold publishLoop
    split
    · exact ⟨rfl, rfl⟩
    · rename_i spec hspec
      split_ifs
      · exact ih r changed
      · cases bus.set spec.path with
        | done => exact ih (r.recorded _ field spec.path value) true
        | raised => exact ⟨rfl, rfl⟩
        | raisedAfter => exact ⟨rfl, rfl⟩

theorem publishLoop_true : ∀ {r : RegisteredPublicationService}, (publishLoop specs bus fields r true).2 ≠ some false := by
  induction fields with
  | nil => exact nofun
  | cons e rest ih =>
    intro r
    obtain ⟨field, value⟩ := e
    unfold publishLoop
    split
    · exact nofun
    · rename_i spec hspec
      split_ifs
      · exact ih
      · cases bus.set spec.path with
        | done => exact ih
        | raised => exact nofun
        | raisedAfter => exact nofun

/-- With a difference the loop does not end unchanged. -/
theorem publishLoop_changed (bus : BusBehavior) (h : ∃ e ∈ fields, r.Differs specs e) :
    (publishLoop specs bus fields r false).2 ≠ some false := by
  induction fields with
  | nil =>
    obtain ⟨e, he, -⟩ := h
    exact absurd he List.not_mem_nil
  | cons e rest ih =>
    obtain ⟨field, value⟩ := e
    unfold publishLoop
    split
    · exact nofun
    · rename_i spec hspec
      split_ifs with hholds
      · refine ih ?_
        obtain ⟨e, he, hdiffers⟩ := h
        rcases List.mem_cons.mp he with rfl | he
        · -- the first field holds, so another one differs
          obtain ⟨spec', hspec', hnot⟩ := hdiffers
          obtain rfl := Option.some.inj (hspec.symm.trans hspec')
          exact absurd hholds (by simp [hnot])
        · exact ⟨e, he, hdiffers⟩
      · cases bus.set spec.path with
        | done => exact publishLoop_true
        | raised => exact nofun
        | raisedAfter => exact nofun

/-- A publication that returns leaves all visible values seen, unless it changes no recorded value and finds a visible
value that was not seen. -/
theorem seen_publishFields_iff (bus : BusBehavior) {fields : CommandPayload}
    (hlaps : r.Changes specs fields → r.nextIndex ≠ r.service.updateIndex) :
    ((r.publishFields fields specs bus).2 = .ok .applied → (r.publishFields fields specs bus).1.service.Seen) ↔
      ¬ (Known specs fields ∧ ¬ r.Changes specs fields ∧ ¬ r.service.Seen) := by
  by_cases hknown : Known specs fields
  · unfold publishFields
    rw [validateFields_of_known hknown]
    dsimp only
    by_cases hchanges : r.Changes specs fields
    · -- the index moves, or the call raises
      refine iff_of_true ?_ fun h => h.2.1 hchanges
      have hended := publishLoop_changed bus hchanges
      have hindex := publishLoop_index specs bus fields.entries r false
      cases hloop : publishLoop specs bus fields.entries r false with
      | mk next changed =>
        rw [hloop] at hended hindex
        cases changed with
        | none => exact nofun
        | some changed =>
          cases changed with
          | false => exact absurd rfl hended
          | true =>
            have hmoves : next.nextIndex ≠ next.service.updateIndex := by
              unfold nextIndex
              rw [hindex.1, hindex.2]
              exact hlaps hchanges
            unfold bumpUpdateIndex
            cases bus.set "/UpdateIndex" with
            | done => exact fun _ => DbusServiceLike.seen_moved hmoves
            | raised => exact nofun
            | raisedAfter => exact nofun
    · have hsame : ∀ e ∈ fields.entries, ¬ r.Differs specs e := fun e he hdiffers => hchanges ⟨e, he, hdiffers⟩
      have hcontained : ∀ e ∈ fields.entries, specs.contains e.1 = true :=
        fun e he => hknown e.1 (List.mem_map_of_mem he)
      simp only [publishLoop_unchanged hcontained hsame, true_imp_iff, hknown, hchanges, not_false_eq_true, true_and,
        not_not]
  · refine iff_of_true ?_ fun h => hknown h.1
    unfold publishFields
    split
    · exact nofun
    · rename_i normalized hvalid
      exact absurd (known_of_validateFields hvalid).1 hknown

end RegisteredPublicationService

namespace PublicationRequest

/-- The service of a request. -/
def serviceId : PublicationRequest → String
  | .registerEvcs _ _ => evcsServiceId
  | .publishEvcs _ => evcsServiceId
  | .registerCompanion identity _ => identity.serviceId
  | .publishCompanion serviceId _ => serviceId

def fields : PublicationRequest → CommandPayload
  | .registerEvcs _ initialFields => initialFields
  | .publishEvcs fields => fields
  | .registerCompanion _ initialFields => initialFields
  | .publishCompanion _ fields => fields

/-- The specs by which a request publishes on a registered service, and nothing when it is refused. -/
def specsFor (settings : PublicationSettings) (r : RegisteredPublicationService) :
    PublicationRequest → Option PublicationSpecs
  | .registerEvcs _ _ => some settings.evcsSpecs
  | .publishEvcs _ => some settings.evcsSpecs
  | .registerCompanion identity _ =>
    if r.kind = .companion identity.kind then some (companionPublicationSpecs identity.kind) else none
  | .publishCompanion _ _ =>
    match r.kind with
    | .evcs => none
    | .companion kind => some (companionPublicationSpecs kind)

end PublicationRequest

namespace GatewayPublicationRegistry

variable {settings : PublicationSettings} {g : GatewayPublicationRegistry} {bus : BusBehavior}
  {request : PublicationRequest} {r : RegisteredPublicationService}

theorem process_registered (settings : PublicationSettings) (bus : BusBehavior)
    (hget : g.services.get? request.serviceId = some r) :
    match request.specsFor settings r with
    | some specs => g.process settings bus request = g.publishOn request.serviceId r request.fields specs bus
    | none => ∃ e, g.process settings bus request = (g, .error e) := by
  cases request with
  | registerEvcs identity initialFields =>
    show g.registerEvcs settings identity initialFields bus = _
    unfold registerEvcs
    rw [show g.services.get? evcsServiceId = some r from hget]
    rfl
  | publishEvcs fields =>
    show g.publishEvcs settings fields bus = _
    unfold publishEvcs
    rw [show g.services.get? evcsServiceId = some r from hget]
    rfl
  | registerCompanion identity initialFields =>
    have hregister : g.process settings bus (.registerCompanion identity initialFields) =
        if r.kind ≠ .companion identity.kind then (g, .error (.changedKind identity.serviceId))
        else g.publishOn identity.serviceId r initialFields (companionPublicationSpecs identity.kind) bus := by
      show g.registerCompanion settings identity initialFields bus = _
      unfold registerCompanion
      rw [show g.services.get? identity.serviceId = some r from hget]
    rw [hregister]
    unfold PublicationRequest.specsFor
    by_cases hkind : r.kind = .companion identity.kind
    · simp only [hkind, if_true, ne_eq, not_true_eq_false, if_false]
      rfl
    · simp only [hkind, if_false, ne_eq, not_false_eq_true, if_true]
      exact ⟨_, rfl⟩
  | publishCompanion serviceId fields =>
    have hpublish : g.process settings bus (.publishCompanion serviceId fields) =
        g.publishCompanion serviceId fields bus := rfl
    have hfound : g.services.get? serviceId = some r := hget
    rw [hpublish]
    unfold publishCompanion PublicationRequest.specsFor
    simp only [hfound]
    cases r.kind with
    | evcs => exact ⟨_, rfl⟩
    | companion kind => rfl

theorem seen_createService {plan : PublicationServicePlan} {outcome : CommandOutcome}
    (hcreated : (g.createService plan bus).2 = .ok outcome)
    (hget : (g.createService plan bus).1.services.get? plan.serviceId = some r) : r.service.Seen := by
  unfold createService at hcreated hget
  split at hget
  · rename_i e hreserve
    rw [hreserve] at hcreated
    cases hcreated
  · rename_i reserved hreserve
    simp only [hreserve] at hcreated
    split at hget
    · rename_i e hvalid
      rw [hvalid] at hcreated
      cases hcreated
    · rename_i normalized hvalid
      simp only [hvalid] at hcreated
      split at hget
      · rename_i hbuild
        rw [hbuild] at hcreated
        cases hcreated
      · rename_i record hbuild
        obtain rfl := Option.some.inj ((Dict.get?_set_self _ _ _).symm.trans hget)
        unfold buildService at hbuild
        dsimp only at hbuild
        split at hbuild
        · cases hbuild
        · split at hbuild
          · cases hbuild
          · split at hbuild
            · obtain rfl := Option.some.inj hbuild
              exact fun path => rfl
            · cases hbuild

/-- A request for a service that is not registered creates it, or it does not apply. -/
theorem seen_unregistered (hnone : g.services.get? request.serviceId = none)
    (happlied : (g.process settings bus request).2 = .ok .applied)
    (hget : (g.process settings bus request).1.services.get? request.serviceId = some r) : r.service.Seen := by
  cases request with
  | registerEvcs identity initialFields =>
    have hcreate : g.process settings bus (.registerEvcs identity initialFields) =
        g.createService (evcsPlan settings identity initialFields) bus := by
      show g.registerEvcs settings identity initialFields bus = _
      unfold registerEvcs
      rw [show g.services.get? evcsServiceId = none from hnone]
    rw [hcreate] at happlied hget
    exact seen_createService happlied hget
  | publishEvcs fields =>
    have hdeferred : g.process settings bus (.publishEvcs fields) = (g, .ok .deferred) := by
      show g.publishEvcs settings fields bus = _
      unfold publishEvcs
      rw [show g.services.get? evcsServiceId = none from hnone]
    rw [hdeferred] at happlied
    nomatch happlied
  | registerCompanion identity initialFields =>
    have hcreate : g.process settings bus (.registerCompanion identity initialFields) =
        g.createService (companionPlan settings identity initialFields) bus := by
      show g.registerCompanion settings identity initialFields bus = _
      unfold registerCompanion
      rw [show g.services.get? identity.serviceId = none from hnone]
    rw [hcreate] at happlied hget
    exact seen_createService happlied hget
  | publishCompanion serviceId fields =>
    have hdeferred : g.process settings bus (.publishCompanion serviceId fields) = (g, .ok .deferred) := by
      show g.publishCompanion serviceId fields bus = _
      unfold publishCompanion
      rw [show g.services.get? serviceId = none from hnone]
    rw [hdeferred] at happlied
    nomatch happlied

/-! ## Runs -/

/-- A request with the answers that the bus gives to it. -/
abbrev PublicationCall := BusBehavior × PublicationRequest

variable (settings)

section

variable (g : GatewayPublicationRegistry) (call : PublicationCall)

/-- The registry after a call. -/
def step : GatewayPublicationRegistry :=
  (g.process settings call.1 call.2).1

/-- After a call that applied, a client that polls the update index has seen all values of its service. -/
def Follows : Prop :=
  (g.process settings call.1 call.2).2 = .ok .applied →
    ∀ r, (g.step settings call).services.get? call.2.serviceId = some r → r.service.Seen

/-- A valid publication changes no recorded value while the service has a visible value that was not seen. -/
def LeavesUnseen : Prop :=
  ∃ r specs, g.services.get? call.2.serviceId = some r ∧ call.2.specsFor settings r = some specs ∧
    RegisteredPublicationService.Known specs call.2.fields ∧ ¬ r.Changes specs call.2.fields ∧ ¬ r.service.Seen

/-- A publication changes a recorded value while the next update index is the visible one. -/
def Laps : Prop :=
  ∃ r specs, g.services.get? call.2.serviceId = some r ∧ call.2.specsFor settings r = some specs ∧
    r.Changes specs call.2.fields ∧ r.nextIndex = r.service.updateIndex

end

variable {settings}

theorem follows_iff {call : PublicationCall} (hlaps : ¬ g.Laps settings call) :
    g.Follows settings call ↔ ¬ g.LeavesUnseen settings call := by
  obtain ⟨bus, request⟩ := call
  unfold Follows LeavesUnseen step
  dsimp only
  cases hget : g.services.get? request.serviceId with
  | none =>
    refine iff_of_true (fun happlied r hr => seen_unregistered hget happlied hr) ?_
    intro ⟨r, specs, hr, _⟩
    nomatch hr
  | some record =>
    have hprocess := process_registered settings bus hget
    cases hspecs : request.specsFor settings record with
    | none =>
      rw [hspecs] at hprocess
      obtain ⟨e, hrefused⟩ := hprocess
      rw [hrefused]
      refine iff_of_true nofun ?_
      intro ⟨r, specs, hr, hspecs', _⟩
      obtain rfl := Option.some.inj hr
      nomatch hspecs.symm.trans hspecs'
    | some specs =>
      rw [hspecs] at hprocess
      dsimp only at hprocess
      have hmoves : record.Changes specs request.fields → record.nextIndex ≠ record.service.updateIndex :=
        fun hchanges heq => hlaps ⟨record, specs, hget, hspecs, hchanges, heq⟩
      have hseen := RegisteredPublicationService.seen_publishFields_iff bus hmoves
      rw [hprocess]
      unfold publishOn
      dsimp only
      constructor
      · intro hfollows ⟨r, specs', hr, hspecs', hleaves⟩
        obtain rfl := Option.some.inj hr
        obtain rfl := Option.some.inj (hspecs.symm.trans hspecs')
        exact hseen.mp (fun happlied => hfollows happlied _ (Dict.get?_set_self _ _ _)) hleaves
      · intro hnot happlied r hr
        obtain rfl := Option.some.inj ((Dict.get?_set_self _ _ _).symm.trans hr)
        exact hseen.mpr (fun hleaves => hnot ⟨record, specs, rfl, hspecs, hleaves⟩) happlied

/-- While the update index of no publication returns to the visible one, all publications that apply are seen exactly
when none leaves a value unseen. -/
theorem update_index_follows_iff (calls : List PublicationCall)
    (hlaps : Along (step settings) (fun g call => ¬ g.Laps settings call) start calls) :
    Along (step settings) (Follows settings) start calls ↔
      Along (step settings) (fun g call => ¬ g.LeavesUnseen settings call) start calls := by
  rw [along_iff_splits] at hlaps ⊢
  rw [along_iff_splits]
  refine forall_congr' fun before => forall_congr' fun call => forall_congr' fun after => ?_
  refine ⟨fun h hsplit => ?_, fun h hsplit => ?_⟩
  · exact (follows_iff (hlaps before call after hsplit)).mp (h hsplit)
  · exact (follows_iff (hlaps before call after hsplit)).mpr (h hsplit)

/-- The power of a meter. -/
def powerFields (power : Int) : CommandPayload := .ofList [("connected", .int 1), ("ac_power_w", .int power)]

/-- A bus that refuses the power of a meter. -/
def powerRefused : BusBehavior := { set := fun path => if path = "/Ac/Power" then .raised else .done }

/-- A publication that raises midway, and a later one that repeats the values which were set before. -/
def tornPublication : List PublicationCall :=
  [({}, .registerCompanion (meterIdentity "meter-1") Dict.empty),
    (powerRefused, .publishCompanion "meter-1" (powerFields 42)), ({}, .publishCompanion "meter-1" (powerFields 0))]

theorem not_laps_of_all {call : PublicationCall}
    (h : ((g.services.get? call.2.serviceId).all fun r => decide (r.nextIndex ≠ r.service.updateIndex)) = true) :
    ¬ g.Laps settings call := by
  intro hlaps
  obtain ⟨r, specs, hr, -, -, hindex⟩ := hlaps
  rw [hr, Option.all_some] at h
  exact of_decide_eq_true h hindex

theorem update_index_tornPublication :
    Along (step meterSettings) (Follows meterSettings) start tornPublication ↔
      Along (step meterSettings) (fun g call => ¬ g.LeavesUnseen meterSettings call) start tornPublication :=
  update_index_follows_iff tornPublication
    ⟨not_laps_of_all (by decide +kernel), not_laps_of_all (by decide +kernel), not_laps_of_all (by decide +kernel),
      trivial⟩

/-- The last publication applies, and the client has not seen that the meter is connected. -/
theorem torn_publication_unseen : ¬ Along (step meterSettings) (Follows meterSettings) start tornPublication := by
  intro hfollows
  obtain ⟨-, -, hlast, -⟩ := hfollows
  have hvalues : ((run (step meterSettings) start tornPublication).services.get? "meter-1").map (fun r =>
      (r.service.polled.get? "/Connected", r.service.values.get? "/Connected")) =
        some (some (.int 0), some (.int 1)) := by decide +kernel
  obtain ⟨r, hr, hconnected⟩ := Option.map_eq_some_iff.mp hvalues
  have hseen := hlast (by decide +kernel) r hr "/Connected"
  obtain ⟨hpolled, hvisible⟩ := Prod.mk.inj hconnected
  rw [hpolled, hvisible] at hseen
  exact absurd hseen (by decide)

end GatewayPublicationRegistry

end VenusEvcharger
