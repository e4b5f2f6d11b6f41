import VenusEvcharger.Library.Returns
import VenusEvcharger.Library.Run
import VenusEvcharger.NativeGateway.Publication

/-!
# Orders of native publications

A run is a list of calls of one registry, and its log has every field that a call made visible. The registry
compares an order only with orders it has recorded, and it records those it reads in a publication: not the
orders of a registration, and no order of 64 bits or more. `never_regresses` is the law of the log for runs in
which these unrecorded orders are not undercut.
-/

namespace VenusEvcharger.NativeGateway

open Library

/-! ## Stated orders -/

/-- The positive order that a value states, of any size. -/
def statedOrder : Option Json → Option Nat
  | some (.int i) => if 0 < i then some i.toNat else none
  | some (.string text) => (parseUnsigned text).filter (0 < ·)
  | _ => none

/-- The order that a command states for one of its fields. -/
def sentOrder (command : JsonMap) (field : String) : Option Nat :=
  if ((command.object? "fields").bind (·.get? field)).isSome then
    ((command.object? "transport_field_orders").bind fun orders => statedOrder (orders.get? field)) <|>
      statedOrder (command.get? "transport_order")
  else none

/-- A field that was made visible: the order that its command stated, and whether the registry recorded it. -/
structure VisibleField where
  serviceId : String
  field : String
  value : BusValue
  order : Option Nat
  recorded : Bool

/-- A registry with every field it has made visible, newest first. -/
structure PublicationRun where
  registry : PublicationRegistry
  log : List VisibleField

/-- One `apply` call. -/
abbrev PublicationCall := BusAnswers × JsonMap

/-- The entry of a field that a call made visible. -/
def visibleField (r : PublicationRegistry) (command : JsonMap) (x : ShownField) : VisibleField where
  serviceId := x.serviceId
  field := x.field
  value := x.value
  order := sentOrder command x.field
  recorded := r.services.contains x.serviceId && decide (sentOrder command x.field ≠ none) &&
    decide (transportOrder command x.field = sentOrder command x.field)

namespace PublicationRun

/-- A new registry. -/
def start (contract : PublicationContract) (identity : PublicationIdentity) : PublicationRun :=
  ⟨.new contract identity, []⟩

/-- One call. -/
def step (r : PublicationRun) (call : PublicationCall) : PublicationRun :=
  let x := r.registry.apply call.1 call.2
  ⟨x.registry, (x.shown.map (visibleField r.registry call.2)).reverse ++ r.log⟩

/-- No field becomes visible with an order below one that was visible before. -/
def NeverRegresses (r : PublicationRun) : Prop :=
  r.log.Pairwise fun newer older => newer.serviceId = older.serviceId → newer.field = older.field →
    ∀ m ∈ newer.order, ∀ n ∈ older.order, n ≤ m

end PublicationRun

/-! ## What a call does -/

/-- The service that a command is for. -/
def targetService (command : JsonMap) : Option String :=
  match (command.text? "kind").getD "" with
  | "register_evcs" | "publish_evcs_fields" => some "evcs"
  | "register_companion" => (command.object? "identity").bind (·.text? "service_id")
  | "publish_companion_fields" => command.text? "service_id"
  | _ => none

namespace PublicationRegistry

/-- The recorded order of a field, zero for none. -/
def recordedOrder (r : PublicationRegistry) (serviceId field : String) : Nat :=
  (r.fieldOrders.get? (serviceId, field)).getD 0

/-- `accepted_fields` takes the field. -/
def Accepts (r : PublicationRegistry) (serviceId : String) (command : JsonMap) (field : String) : Prop :=
  ∀ order ∈ transportOrder command field, r.recordedOrder serviceId field ≤ order

instance (r : PublicationRegistry) (serviceId : String) (command : JsonMap) (field : String) :
    Decidable (r.Accepts serviceId command field) :=
  inferInstanceAs (Decidable (∀ order ∈ transportOrder command field, _))

/-- Every service stays registered. -/
def Keeps (r next : PublicationRegistry) : Prop :=
  ∀ serviceId, r.services.contains serviceId = true → next.services.contains serviceId = true

/-- What one call does to the recorded orders, and what it makes visible. -/
inductive ApplyStep (r : PublicationRegistry) (command : JsonMap) (x : ApplyResult) : Prop
  | silent (hshown : x.shown = []) (hkeeps : r.Keeps x.registry)
      (horders : x.registry.fieldOrders = r.fieldOrders)
  | created (serviceId : String) (hnew : r.services.contains serviceId = false)
      (hnow : x.registry.services.contains serviceId = true)
      (hshown : ∀ y ∈ x.shown, y.serviceId = serviceId) (hkeeps : r.Keeps x.registry)
      (horders : x.registry.fieldOrders = r.fieldOrders)
  | published (serviceId : String) (htarget : targetService command = some serviceId)
      (hregistered : r.services.contains serviceId = true) (fields : JsonMap)
      (hfields : command.object? "fields" = some fields)
      (hshown : ∀ y ∈ x.shown, y.serviceId = serviceId ∧
        y.field ∈ (acceptedFields serviceId command r fields).2.map Prod.fst)
      (hkeeps : r.Keeps x.registry)
      (horders : x.registry.fieldOrders = (acceptedFields serviceId command r fields).1.fieldOrders)

theorem acceptField_services (r : PublicationRegistry) (serviceId : String) (command : JsonMap)
    (field : String) : (acceptField serviceId command r field).1.services = r.services := by
  unfold acceptField
  split
  · rfl
  · split <;> rfl

variable {r : PublicationRegistry} {command : JsonMap}

variable {serviceId : String}

theorem acceptField_accepts {field : String} :
    (acceptField serviceId command r field).2 = true ↔ r.Accepts serviceId command field := by
  unfold acceptField Accepts recordedOrder
  cases horder : transportOrder command field with
  | none => simp
  | some order =>
    dsimp only
    split
    · rename_i hlt
      simpa using hlt
    · rename_i hge
      simpa using Nat.not_lt.mp hge

theorem acceptField_le (r : PublicationRegistry) (serviceId : String) (command : JsonMap)
    (field s f : String) :
    r.recordedOrder s f ≤ (acceptField serviceId command r field).1.recordedOrder s f := by
  unfold acceptField recordedOrder
  cases horder : transportOrder command field with
  | none => exact le_rfl
  | some order =>
    dsimp only
    split
    · exact le_rfl
    · rename_i hge
      rw [Dict.get?_set]
      split
      · rename_i hkey
        obtain ⟨rfl, rfl⟩ := Prod.mk.inj hkey
        simpa using Nat.not_lt.mp hge
      · exact le_rfl

theorem acceptField_records {field : String} {order : Nat}
    (horder : transportOrder command field = some order)
    (haccepts : r.Accepts serviceId command field) :
    (acceptField serviceId command r field).1.recordedOrder serviceId field = order := by
  have hge : (r.fieldOrders.get? (serviceId, field)).getD 0 ≤ order := haccepts order horder
  unfold acceptField recordedOrder
  rw [horder]
  dsimp only
  rw [if_neg (Nat.not_lt.mpr hge), Dict.get?_set, if_pos rfl]
  rfl

/-! ## Accepted fields -/

theorem acceptedFields_services (serviceId : String) (command : JsonMap) (r : PublicationRegistry)
    (fields : JsonMap) : (acceptedFields serviceId command r fields).1.services = r.services := by
  induction fields generalizing r with
  | nil => rfl
  | cons entry fields ih =>
    simp only [acceptedFields]
    rw [ih, acceptField_services]

theorem acceptedFields_le (serviceId : String) (command : JsonMap) (r : PublicationRegistry)
    (fields : JsonMap) (s f : String) :
    r.recordedOrder s f ≤ (acceptedFields serviceId command r fields).1.recordedOrder s f := by
  induction fields generalizing r with
  | nil => exact le_rfl
  | cons entry fields ih => exact (acceptField_le r serviceId command entry.1 s f).trans (ih _)

/-- A field of the result was accepted by the registry before the call, and its order is recorded after it. -/
theorem acceptedFields_spec {fields : JsonMap} {field : String}
    (h : field ∈ (acceptedFields serviceId command r fields).2.map Prod.fst) :
    field ∈ fields.map Prod.fst ∧ r.Accepts serviceId command field ∧
      ∀ order ∈ transportOrder command field,
        order ≤ (acceptedFields serviceId command r fields).1.recordedOrder serviceId field := by
  induction fields generalizing r with
  | nil => exact absurd h List.not_mem_nil
  | cons entry fields ih =>
    obtain ⟨name, value⟩ := entry
    simp only [acceptedFields] at h ⊢
    by_cases haccepted : (acceptField serviceId command r name).2 = true
    · rw [if_pos haccepted, List.map_cons, List.mem_cons] at h
      rcases h with rfl | h
      · have haccepts := acceptField_accepts.mp haccepted
        refine ⟨List.mem_cons_self, haccepts, fun order horder => ?_⟩
        rw [← acceptField_records horder haccepts]
        exact acceptedFields_le ..
      · obtain ⟨hmem, haccepts, hrecorded⟩ := ih h
        exact ⟨List.mem_cons_of_mem _ hmem,
          fun order horder => (acceptField_le ..).trans (haccepts order horder), hrecorded⟩
    · rw [if_neg haccepted] at h
      obtain ⟨hmem, haccepts, hrecorded⟩ := ih h
      exact ⟨List.mem_cons_of_mem _ hmem,
        fun order horder => (acceptField_le ..).trans (haccepts order horder), hrecorded⟩

/-! ## Calls -/

theorem Keeps.refl (r : PublicationRegistry) : r.Keeps r := fun _ h => h

theorem keeps_set {next : PublicationRegistry} {record : RegisteredService}
    (h : next.services = r.services.set serviceId record) : r.Keeps next := by
  intro s hs
  simp only [Dict.contains, h, Dict.get?_set] at hs ⊢
  split
  · rfl
  · exact hs

/-- The updates that the loop has stored are among those it was given. -/
theorem publishUpdates_stored (answers : BusAnswers) (service : PublishedService) (changed : Bool)
    (updates : List FieldUpdate) : (publishUpdates answers service changed updates).2.1 ⊆ updates := by
  induction updates generalizing service changed with
  | nil => exact List.Subset.refl _
  | cons update updates ih =>
    obtain ⟨field, path, value⟩ := update
    simp only [publishUpdates]
    split
    · split
      · simp
      · exact List.nil_subset _
    · exact List.cons_subset_cons _ (ih ..)

theorem fieldUpdate_field {specs : Surface} {entry : String × Json} {update : FieldUpdate}
    (h : fieldUpdate specs entry = .ok update) : update.1 = entry.1 := by
  unfold fieldUpdate at h
  split at h
  · cases hvalue : BusValue.fromJson entry.2 with
    | error error => simp [hvalue, bind, Except.bind] at h
    | ok value =>
      simp [hvalue, bind, Except.bind, pure, Except.pure] at h
      rw [← h]
  · nomatch h

theorem mem_of_fieldUpdates {specs : Surface} {accepted : JsonMap} {updates : List FieldUpdate}
    (h : accepted.mapM (fieldUpdate specs) = .ok updates) {update : FieldUpdate} (hmem : update ∈ updates) :
    update.1 ∈ accepted.map Prod.fst := by
  obtain ⟨entry, hentry, hupdate⟩ := (mem_of_mapM h update).mp hmem
  rw [fieldUpdate_field hupdate]
  exact List.mem_map_of_mem hentry

/-- A publication is silent, or publishes accepted fields. -/
theorem publish_step (r : PublicationRegistry) (answers : BusAnswers)
    (htarget : targetService command = some serviceId) :
    ApplyStep r command (r.publish answers serviceId command) := by
  unfold publish
  split
  · exact .silent rfl (.refl r) rfl
  · rename_i record hrecord
    have hregistered : r.services.contains serviceId = true := by simp [Dict.contains, hrecord]
    split
    · exact .silent rfl (.refl r) rfl
    · rename_i fields hfields
      split
      · exact .silent rfl (.refl r) rfl
      · split
        · exact .silent rfl (.refl r) rfl
        · have hservices := acceptedFields_services serviceId command r fields
          have hpublished : ∀ x : ApplyResult,
              (∀ y ∈ x.shown, y.serviceId = serviceId ∧
                y.field ∈ (acceptedFields serviceId command r fields).2.map Prod.fst) →
              r.Keeps x.registry →
              x.registry.fieldOrders = (acceptedFields serviceId command r fields).1.fieldOrders →
              ApplyStep r command x :=
            fun x => .published serviceId htarget hregistered fields hfields
          generalize acceptedFields serviceId command r fields = taken at hservices hpublished
          obtain ⟨next, accepted⟩ := taken
          have hkept : r.Keeps next := fun s hs => by rwa [hservices]
          dsimp only at hservices hpublished ⊢
          split
          · exact hpublished _ (by simp) hkept rfl
          · rename_i updates hupdates
            split
            · exact hpublished _ (by simp) hkept rfl
            · have hstored := publishUpdates_stored answers record.service false updates
              generalize publishUpdates answers record.service false updates = done at hstored
              obtain ⟨service, stored, result⟩ := done
              have hshown : ∀ y ∈ stored.map
                  (fun update => (⟨serviceId, update.1, update.2.2⟩ : ShownField)),
                  y.serviceId = serviceId ∧ y.field ∈ accepted.map Prod.fst := by
                intro y hy
                obtain ⟨update, hmem, rfl⟩ := List.mem_map.mp hy
                exact ⟨rfl, mem_of_fieldUpdates hupdates (hstored hmem)⟩
              dsimp only
              split
              · exact hpublished _ hshown (keeps_set (by rw [← hservices])) rfl
              · exact hpublished _ hshown (keeps_set (by rw [← hservices])) rfl
              · split <;> exact hpublished _ hshown (keeps_set (by rw [← hservices])) rfl

/-- A new service shows its own fields. -/
theorem buildService_shown {answers : BusAnswers} {kind serviceName : String}
    {identityPaths : List (String × BusValue)} {fields : JsonMap} {service : RegisteredService}
    {shown : List ShownField}
    (h : r.buildService answers serviceId kind serviceName identityPaths fields = .ok (service, shown)) :
    ∀ y ∈ shown, y.serviceId = serviceId := by
  unfold buildService at h
  split at h
  · nomatch h
  · split at h
    · nomatch h
    · split at h
      · nomatch h
      · split at h
        · nomatch h
        · obtain ⟨-, rfl⟩ := Prod.mk.inj (Except.ok.inj h)
          intro y hy
          obtain ⟨value, -, rfl⟩ := List.mem_map.mp hy
          rfl

/-- A registration is silent, or creates a service that was not there. -/
theorem createService_step (r : PublicationRegistry) (answers : BusAnswers)
    (hnew : r.services.contains serviceId = false) (command : JsonMap) (kind serviceName : String)
    (deviceInstance : Int) (identityPaths : List (String × BusValue)) (fields : JsonMap) :
    ApplyStep r command
      (r.createService answers serviceId kind serviceName deviceInstance identityPaths fields) := by
  unfold createService
  split
  · exact .silent rfl (.refl r) rfl
  · rename_i reserved hreserved
    obtain ⟨hservices, horders⟩ : reserved.services = r.services ∧ reserved.fieldOrders = r.fieldOrders := by
      unfold reserveIdentity at hreserved
      split at hreserved
      · nomatch hreserved
      · split at hreserved
        · nomatch hreserved
        · obtain rfl := Except.ok.inj hreserved
          exact ⟨rfl, rfl⟩
    split
    · exact .silent rfl (fun s hs => by rwa [hservices]) horders
    · rename_i service shown hbuilt
      refine .created serviceId hnew (by simp [Dict.contains]) ?_ (keeps_set (by rw [← hservices])) horders
      exact buildService_shown hbuilt

/-- What a call does, by the kind of its command. -/
theorem apply_step (r : PublicationRegistry) (answers : BusAnswers) (command : JsonMap) :
    ApplyStep r command (r.apply answers command) := by
  unfold apply
  split
  · rename_i hkind
    have htarget : targetService command = some "evcs" := by simp only [targetService, hkind]
    unfold registerEvcs
    split
    · exact publish_step r answers htarget
    · rename_i hnew
      split
      · exact .silent rfl (.refl r) rfl
      · split
        · exact .silent rfl (.refl r) rfl
        · exact createService_step r answers (by simpa using hnew) ..
  · rename_i hkind
    exact publish_step r answers (by simp only [targetService, hkind])
  · rename_i hkind
    unfold registerCompanion
    split
    · exact .silent rfl (.refl r) rfl
    · rename_i identity hidentity
      split
      · rename_i serviceId kind hservice _
        split
        · refine publish_step r answers ?_
          simp only [targetService, hkind, hidentity, Option.bind_some, hservice]
        · rename_i hnew
          split
          · exact .silent rfl (.refl r) rfl
          · generalize r.identity.companion kind serviceId = named
            obtain ⟨serviceName, deviceInstance⟩ := named
            dsimp only
            split
            · exact .silent rfl (.refl r) rfl
            · exact createService_step r answers (by simpa using hnew) ..
      · exact .silent rfl (.refl r) rfl
  · rename_i hkind
    split
    · exact .silent rfl (.refl r) rfl
    · rename_i serviceId hservice
      exact publish_step r answers (by simp only [targetService, hkind, hservice])
  · exact .silent rfl (.refl r) rfl

end PublicationRegistry

namespace PublicationRun

/-- The fields of a command. -/
def sentFields (command : JsonMap) : List String := ((command.object? "fields").getD []).map Prod.fst

/-- No field that the call accepts states an order below a visible one that was not recorded, and where the
stated order is not the one that is compared, below no visible one. -/
def Ordered (r : PublicationRun) (call : PublicationCall) : Prop :=
  ∀ serviceId ∈ targetService call.2, r.registry.services.contains serviceId = true →
    ∀ field ∈ sentFields call.2, r.registry.Accepts serviceId call.2 field →
      ∀ m ∈ sentOrder call.2 field, ∀ e ∈ r.log, e.serviceId = serviceId → e.field = field →
        (e.recorded = false ∨ transportOrder call.2 field ≠ some m) → ∀ n ∈ e.order, n ≤ m

instance (r : PublicationRun) (call : PublicationCall) : Decidable (Ordered r call) := by
  unfold Ordered
  infer_instance

/-- What the log says about the registry, and that it has not regressed. -/
structure Consistent (r : PublicationRun) : Prop where
  registered : ∀ e ∈ r.log, r.registry.services.contains e.serviceId = true
  recorded : ∀ e ∈ r.log, e.recorded = true → ∀ n ∈ e.order,
    n ≤ r.registry.recordedOrder e.serviceId e.field
  ordered : r.NeverRegresses

theorem consistent_start (contract : PublicationContract) (identity : PublicationIdentity) :
    Consistent (start contract identity) :=
  ⟨fun _ h => absurd h List.not_mem_nil, fun _ h => absurd h List.not_mem_nil, List.Pairwise.nil⟩

theorem mem_log_step {r : PublicationRun} {call : PublicationCall} {e : VisibleField} :
    e ∈ (r.step call).log ↔
      (∃ x ∈ (r.registry.apply call.1 call.2).shown, visibleField r.registry call.2 x = e) ∨ e ∈ r.log := by
  simp [step]

/-- The log does not regress when no new entry falls below an old one. -/
theorem neverRegresses_step {r : PublicationRun} {call : PublicationCall} (hr : r.NeverRegresses)
    (hnew : ∀ x ∈ (r.registry.apply call.1 call.2).shown, ∀ e ∈ r.log, x.serviceId = e.serviceId →
      x.field = e.field → ∀ m ∈ sentOrder call.2 x.field, ∀ n ∈ e.order, n ≤ m) :
    (r.step call).NeverRegresses := by
  refine List.pairwise_append.mpr ⟨?_, hr, ?_⟩
  · -- the entries of one call state the order of their field
    refine List.pairwise_of_forall_mem_list fun newer hnewer older holder => ?_
    obtain ⟨x, -, rfl⟩ := List.mem_map.mp (List.mem_reverse.mp hnewer)
    obtain ⟨y, -, rfl⟩ := List.mem_map.mp (List.mem_reverse.mp holder)
    intro _ hfield m hm n hn
    have hfield : x.field = y.field := hfield
    simp only [visibleField, hfield] at hm hn
    exact (Option.mem_unique hn hm).le
  · intro newer hnewer older holder
    obtain ⟨x, hx, rfl⟩ := List.mem_map.mp (List.mem_reverse.mp hnewer)
    exact hnew x hx older holder

theorem step_consistent (r : PublicationRun) (call : PublicationCall) (hr : Consistent r)
    (hordered : Ordered r call) : Consistent (r.step call) := by
  have hold : ∀ e ∈ r.log, e.recorded = true → ∀ n ∈ e.order,
      n ≤ r.registry.recordedOrder e.serviceId e.field := hr.recorded
  -- A call shows nothing, creates a service, or publishes fields of one.
  cases r.registry.apply_step call.1 call.2 with
  | silent hshown hkeeps horders =>
    have hlog : (r.step call).log = r.log := by simp [step, hshown]
    refine ⟨fun e he => ?_, fun e he => ?_, neverRegresses_step hr.ordered (by simp [hshown])⟩
    · rw [hlog] at he
      exact hkeeps _ (hr.registered e he)
    · rw [hlog] at he
      unfold PublicationRegistry.recordedOrder step
      rw [horders]
      exact hold e he
  | created serviceId hnew hnow hshown hkeeps horders =>
    refine ⟨fun e he => ?_, fun e he hrecorded => ?_, neverRegresses_step hr.ordered ?_⟩
    · rcases mem_log_step.mp he with ⟨x, hx, rfl⟩ | he
      · change (r.registry.apply call.1 call.2).registry.services.contains x.serviceId = true
        rwa [hshown x hx]
      · exact hkeeps _ (hr.registered e he)
    · rcases mem_log_step.mp he with ⟨x, hx, rfl⟩ | he
      · simp [visibleField, hshown x hx, hnew] at hrecorded
      · unfold PublicationRegistry.recordedOrder step
        rw [horders]
        exact hold e he hrecorded
    · -- the service was not there, so nothing of it was visible
      intro x hx e he hservice
      have hcontra := hr.registered e he
      rw [← hservice, hshown x hx, hnew] at hcontra
      exact absurd hcontra Bool.false_ne_true
  | published serviceId htarget hregistered fields hfields hshown hkeeps horders =>
    have hgrown : ∀ s f, r.registry.recordedOrder s f ≤ (r.step call).registry.recordedOrder s f := by
      intro s f
      have := PublicationRegistry.acceptedFields_le serviceId call.2 r.registry fields s f
      unfold PublicationRegistry.recordedOrder at this ⊢
      rwa [← horders] at this
    refine ⟨fun e he => ?_, fun e he hrecorded n hn => ?_, neverRegresses_step hr.ordered ?_⟩
    · rcases mem_log_step.mp he with ⟨x, hx, rfl⟩ | he
      · refine hkeeps _ ?_
        simp only [visibleField, (hshown x hx).1, hregistered]
      · exact hkeeps _ (hr.registered e he)
    · rcases mem_log_step.mp he with ⟨x, hx, rfl⟩ | he
      · obtain ⟨hservice, hfield⟩ := hshown x hx
        obtain ⟨-, -, horder⟩ := PublicationRegistry.acceptedFields_spec hfield
        simp only [visibleField, Bool.and_eq_true, decide_eq_true_eq] at hrecorded hn ⊢
        have hread : transportOrder call.2 x.field = some n := hrecorded.2.trans hn
        have := horder n hread
        unfold PublicationRegistry.recordedOrder at this ⊢
        rw [← horders, ← hservice] at this
        exact this
      · exact (hold e he hrecorded n hn).trans (hgrown _ _)
    · intro x hx e he hservice hfield m hm n hn
      obtain ⟨hserviceId, haccepted⟩ := hshown x hx
      obtain ⟨hmem, haccepts, -⟩ := PublicationRegistry.acceptedFields_spec haccepted
      by_cases hcompared : e.recorded = true ∧ transportOrder call.2 x.field = some m
      · -- both orders are compared with the recorded one
        have hbelow := hold e he hcompared.1 n hn
        rw [← hservice, ← hfield, hserviceId] at hbelow
        exact hbelow.trans (haccepts m hcompared.2)
      · refine hordered serviceId htarget hregistered x.field ?_ haccepts m hm e he
          (hservice.symm.trans hserviceId) hfield.symm ?_ n hn
        · simpa [sentFields, hfields] using hmem
        · rw [← Bool.not_eq_true]
          exact not_and_or.mp hcompared

/-- In a run of ordered calls no field regresses. -/
theorem never_regresses (contract : PublicationContract) (identity : PublicationIdentity)
    (calls : List PublicationCall) (h : Along step Ordered (start contract identity) calls) :
    (run step (start contract identity) calls).NeverRegresses :=
  (run_invariant_of_along step_consistent (consistent_start contract identity) h).ordered

instance (r : PublicationRun) : Decidable r.NeverRegresses := by
  unfold NeverRegresses
  infer_instance

/-! ## The grid companion -/

/-- The grid surface of the contract. -/
def gridSurface : Surface :=
  [("ac_power_w", ⟨"/Ac/Power", .float 0, some "watts"⟩), ("connected", ⟨"/Connected", .int 0, none⟩),
    ("l1_power_w", ⟨"/Ac/L1/Power", .float 0, some "watts"⟩),
    ("l2_power_w", ⟨"/Ac/L2/Power", .float 0, some "watts"⟩),
    ("l3_power_w", ⟨"/Ac/L3/Power", .float 0, some "watts"⟩)]

/-- A new registry for the grid companion. -/
def gridStart : PublicationRun :=
  start ⟨[], [("grid", gridSurface)]⟩
    ⟨"com.victronenergy.evcharger.http_60", 60, 1, fun _ _ => ("com.victronenergy.grid.external_102", 102)⟩

/-- A bus that takes everything. -/
def quietBus : BusAnswers := ⟨none, none, fun _ => none⟩

/-- The registration of the grid companion with a power. -/
def registerGrid (order : Int) (power : ℚ) : PublicationCall :=
  (quietBus, [("fields", .object [("ac_power_w", .float power)]),
    ("identity", .object (("service_id", .string "aggregate-grid") :: ("kind", .string "grid") ::
      identityMappings.map fun entry => (entry.1, .string "evcharger"))),
    ("kind", .string "register_companion"), ("transport_order", .int order)])

/-- A publication of the grid power. -/
def publishGrid (order : Int) (power : ℚ) : PublicationCall :=
  (quietBus, [("fields", .object [("ac_power_w", .float power)]), ("kind", .string "publish_companion_fields"),
    ("service_id", .string "aggregate-grid"), ("transport_order", .int order)])

theorem never_regresses_after_registration :
    (run step gridStart [registerGrid 10 500, publishGrid 12 600, publishGrid 11 700]).NeverRegresses :=
  never_regresses _ _ _ (by decide +kernel)

/-- The orders of a registration are not recorded, so an older publication replaces its value. -/
theorem registered_value_regresses :
    ¬(run step gridStart [registerGrid 10 500, publishGrid 5 600]).NeverRegresses := by
  decide +kernel

end PublicationRun

end VenusEvcharger.NativeGateway
