import Mathlib.Data.Rat.Defs
import VenusEvcharger.Library.Run

/-!
# Disabling one channel of one Shelly on the bus

What a command that disables a matching generic Shelly does on the bus, for both gateways: the exchanges of the command,
what they may be (`Safe`), and what the devices of a tree reply (`DeviceReplies`).
-/

namespace VenusEvcharger

/-- What a command looks for: the service of the devices, the field with the identity of a device, whether a name and a
read identity equal the selector, and the requested channel. -/
structure ShellyTarget where
  service : String
  identityField : String
  named : String → Bool
  identified : String → Bool
  channel : String

namespace ShellyTarget

variable (t : ShellyTarget)

def identityPath (device : String) : String := "/Devices/" ++ device ++ "/" ++ t.identityField

def enabledPath (device : String) : String := "/Devices/" ++ device ++ "/" ++ t.channel ++ "/Enabled"

end ShellyTarget

/-- The value that a read gives, as text and as a number. -/
structure ShellyReading where
  text : String
  number : Option ℚ
deriving DecidableEq

/-- An operation on the bus with what its answer gives; `none` is an error. Any other operation is `other`. -/
inductive ShellyExchange where
  | introspect (service path : String) (devices : Option (List String))
  | read (service path : String) (reading : Option ShellyReading)
  | write (service path : String) (value : Int) (accepted : Bool)
  | other
deriving DecidableEq

/-! ## What a command may do -/

section

variable (t : ShellyTarget) (log : List ShellyExchange)

/-- The device is in a list that was discovered. -/
def Discovered (device : String) : Prop :=
  ∃ devices, .introspect t.service "/Devices" (some devices) ∈ log ∧ device ∈ devices

/-- The name of the device equals the selector, or the identity that was read of it. -/
def Identified (device : String) : Prop :=
  t.named device = true ∨
    ∃ reading, .read t.service (t.identityPath device) (some reading) ∈ log ∧ t.identified reading.text = true

/-- The channel of the device was read as enabled. -/
def FoundEnabled (device : String) : Prop :=
  ∃ reading, .read t.service (t.enabledPath device) (some reading) ∈ log ∧ reading.number = some 1

/-- What may be exchanged after the exchanges of a log. -/
inductive Allowed : ShellyExchange → Prop where
  | discovery (devices) : Allowed (.introspect t.service "/Devices" devices)
  | identity {device} (h : Discovered t log device) (reading) :
    Allowed (.read t.service (t.identityPath device) reading)
  | enabled {device} (h : Discovered t log device) (hid : Identified t log device) (reading) :
    Allowed (.read t.service (t.enabledPath device) reading)
  | disable {device} (h : Discovered t log device) (hid : Identified t log device) (hon : FoundEnabled t log device)
    (accepted) : Allowed (.write t.service (t.enabledPath device) 0 accepted)

/-- Every exchange is allowed by those before it: only discovered devices are addressed, and a channel is disabled only
on a device that equals the selector, after it was read as enabled. -/
def Safe : Prop := ∀ before x after, log = before ++ x :: after → Allowed t before x

end

variable {t : ShellyTarget} {log : List ShellyExchange} {device : String}

theorem Discovered.append (h : Discovered t log device) (tail : List ShellyExchange) :
    Discovered t (log ++ tail) device := by
  obtain ⟨devices, hmem, hdevice⟩ := h
  exact ⟨devices, List.mem_append_left _ hmem, hdevice⟩

theorem Identified.append (h : Identified t log device) (tail : List ShellyExchange) :
    Identified t (log ++ tail) device := by
  rcases h with hname | ⟨reading, hmem, hreading⟩
  · exact .inl hname
  · exact .inr ⟨reading, List.mem_append_left _ hmem, hreading⟩

theorem safe_nil (t : ShellyTarget) : Safe t [] := by
  intro before x after h
  have hlength := congrArg List.length h
  rw [List.length_append, List.length_cons, List.length_nil] at hlength
  omega

theorem Safe.snoc (h : Safe t log) {x : ShellyExchange} (hx : Allowed t log x) : Safe t (log ++ [x]) := by
  intro before y after hsplit
  rcases List.eq_nil_or_concat after with hnil | ⟨front, last, hlast⟩
  · subst hnil
    obtain ⟨hlog, hlast⟩ := List.append_inj' hsplit rfl
    obtain ⟨heq, -⟩ := List.cons.inj hlast
    rw [← hlog, ← heq]
    exact hx
  · subst hlast
    rw [List.concat_eq_append, ← List.cons_append, ← List.append_assoc] at hsplit
    obtain ⟨hlog, -⟩ := List.append_inj' hsplit rfl
    exact h before y front hlog

/-! ## Where a command is -/

/-- How far a command has come. -/
inductive ShellyPhase where
  | discover
  | identify (devices : List String) (cursor : Nat)
  | enabled (device : String)
  | disable (device : String)

/-- What the exchanges say about the devices of a phase. -/
def Tracked (t : ShellyTarget) (log : List ShellyExchange) : ShellyPhase → Prop
  | .discover => True
  | .identify devices _ => ∀ device ∈ devices, Discovered t log device
  | .enabled device => Discovered t log device ∧ Identified t log device
  | .disable device => Discovered t log device ∧ Identified t log device ∧ FoundEnabled t log device

theorem FoundEnabled.append (h : FoundEnabled t log device) (tail : List ShellyExchange) :
    FoundEnabled t (log ++ tail) device := by
  obtain ⟨reading, hmem, hone⟩ := h
  exact ⟨reading, List.mem_append_left _ hmem, hone⟩

theorem Tracked.append {phase : ShellyPhase} (h : Tracked t log phase) (tail : List ShellyExchange) :
    Tracked t (log ++ tail) phase := by
  cases phase with
  | discover => trivial
  | identify devices cursor => exact fun device hdevice => (h device hdevice).append tail
  | enabled device => exact ⟨h.1.append tail, h.2.append tail⟩
  | disable device => exact ⟨h.1.append tail, h.2.1.append tail, h.2.2.append tail⟩

theorem tracked_discovered (t : ShellyTarget) (log : List ShellyExchange) (devices : List String) :
    Tracked t (log ++ [.introspect t.service "/Devices" (some devices)]) (.identify devices 0) :=
  fun _ hdevice => ⟨devices, List.mem_append_right _ List.mem_cons_self, hdevice⟩

theorem tracked_identified {devices : List String} {cursor : Nat} (h : Tracked t log (.identify devices cursor))
    (hdevice : device ∈ devices) {reading : ShellyReading} (hreading : t.identified reading.text = true) :
    Tracked t (log ++ [.read t.service (t.identityPath device) (some reading)]) (.enabled device) :=
  ⟨(h device hdevice).append _, .inr ⟨reading, List.mem_append_right _ List.mem_cons_self, hreading⟩⟩

theorem tracked_enabled (h : Tracked t log (.enabled device)) {reading : ShellyReading}
    (hone : reading.number = some 1) :
    Tracked t (log ++ [.read t.service (t.enabledPath device) (some reading)]) (.disable device) :=
  ⟨h.1.append _, h.2.append _, reading, List.mem_append_right _ List.mem_cons_self, hone⟩

/-! ## What the devices reply -/

/-- What the devices of a tree reply: the text of the identity and the number of the channel, `none` where a device does
not answer, and whether it accepts that the channel is disabled. -/
structure DeviceReplies where
  identity : String → Option String
  enabled : String → Option (Option ℚ)
  accepts : String → Bool

section

variable (t : ShellyTarget) (replies : DeviceReplies)

/-- The device equals the selector, by its name or by the identity that it gives. -/
def Matching (device : String) : Prop :=
  t.named device = true ∨ ∃ text ∈ replies.identity device, t.identified text = true

/-- The channel of the device is disabled already, or can be. -/
def CanDisable (device : String) : Prop :=
  replies.enabled device = some (some 0) ∨
    replies.enabled device = some (some 1) ∧ replies.accepts device = true

/-- The device answers with another identity than the selector. -/
def Other (device : String) : Prop :=
  t.named device = false ∧ ∃ text ∈ replies.identity device, t.identified text = false

/-- In a list the first device that is not another one equals the selector, and its channel can be disabled. -/
def FirstMatches (devices : List String) : Prop :=
  ∃ before device after, devices = before ++ device :: after ∧ (∀ other ∈ before, Other t replies other) ∧
    Matching t replies device ∧ CanDisable replies device

end

variable {replies : DeviceReplies}

theorem not_matching_of_other (h : Other t replies device) : ¬ Matching t replies device := by
  obtain ⟨hname, text, htext, hother⟩ := h
  rintro (hnamed | ⟨text', htext', hmatch⟩)
  · rw [hname] at hnamed
    nomatch hnamed
  · obtain rfl : text = text' := Option.some.inj (htext.symm.trans htext')
    rw [hother] at hmatch
    nomatch hmatch

/-- The first device of a list decides, unless it is another one. -/
theorem firstMatches_cons {rest : List String} :
    FirstMatches t replies (device :: rest) ↔
      Matching t replies device ∧ CanDisable replies device ∨ Other t replies device ∧ FirstMatches t replies rest := by
  constructor
  · intro ⟨before, found, after, hsplit, hbefore, hfound⟩
    cases before with
    | nil =>
      obtain ⟨rfl, -⟩ := List.cons.inj hsplit
      exact .inl hfound
    | cons first before =>
      obtain ⟨rfl, hrest⟩ := List.cons.inj hsplit
      exact .inr ⟨hbefore device List.mem_cons_self, before, found, after, hrest,
        fun other hother => hbefore other (List.mem_cons_of_mem _ hother), hfound⟩
  · rintro (hfound | ⟨hdevice, before, found, after, hsplit, hbefore, hfound⟩)
    · exact ⟨[], device, rest, rfl, fun _ hmem => absurd hmem List.not_mem_nil, hfound⟩
    · refine ⟨device :: before, found, after, by rw [hsplit, List.cons_append], ?_, hfound⟩
      intro other hother
      rcases List.mem_cons.mp hother with heq | htail
      · exact heq ▸ hdevice
      · exact hbefore other htail

/-- A device that neither has a matching name nor gives its identity keeps a command from the devices after it. -/
theorem not_firstMatches_of_silent (hname : t.named device = false) (hsilent : replies.identity device = none)
    (rest : List String) : ¬ FirstMatches t replies (device :: rest) := by
  rw [firstMatches_cons]
  rintro (⟨hnamed | ⟨text, htext, -⟩, -⟩ | ⟨⟨-, text, htext, -⟩, -⟩)
  · rw [hname] at hnamed
    nomatch hnamed
  · rw [hsilent] at htext
    nomatch htext
  · rw [hsilent] at htext
    nomatch htext

/-! ## While the devices keep to their replies -/

/-- How a command ends. -/
inductive ShellyEnd where
  | applied
  | dropped
deriving DecidableEq

/-- What an attempt makes of a phase: the next one, or the end of the command. -/
abbrev PhaseResult := ShellyPhase ⊕ ShellyEnd

/-- The phase after an error: a gateway that restarts discovers the devices again, the other one stays in its phase. -/
def ShellyPhase.afterError (restarts : Bool) (phase : ShellyPhase) : ShellyPhase := if restarts then .discover else phase

section

variable (t : ShellyTarget) (replies : DeviceReplies) (restarts : Bool) (entry : ShellyPhase)

/-- An attempt while the discovery leads to `entry` and the devices keep to their replies. At the end of the list a
gateway ends the command at once or with the next attempt. -/
inductive KeptStep : ShellyPhase → PhaseResult → Prop where
  | discover : KeptStep .discover (.inl entry)
  | past {listed cursor} (hcursor : listed.length ≤ cursor) : KeptStep (.identify listed cursor) (.inr .applied)
  | found {listed cursor} {device : String} (hdevice : listed[cursor]? = some device) (hmatch : Matching t replies device) :
    KeptStep (.identify listed cursor) (.inl (.enabled device))
  | other {listed cursor} {device : String} (hdevice : listed[cursor]? = some device) (hother : Other t replies device) :
    KeptStep (.identify listed cursor) (.inl (.identify listed (cursor + 1)))
  | last {listed cursor} {device : String} (hdevice : listed[cursor]? = some device) (hother : Other t replies device)
    (hcursor : listed.length ≤ cursor + 1) : KeptStep (.identify listed cursor) (.inr .applied)
  | silent {listed cursor} {device : String} (hdevice : listed[cursor]? = some device) (hmatch : ¬ Matching t replies device)
    (hother : ¬ Other t replies device) :
    KeptStep (.identify listed cursor) (.inl (ShellyPhase.afterError restarts (.identify listed cursor)))
  | disabled {device : String} (henabled : replies.enabled device = some (some 0)) :
    KeptStep (.enabled device) (.inr .applied)
  | enabled {device : String} (henabled : replies.enabled device = some (some 1)) :
    KeptStep (.enabled device) (.inl (.disable device))
  | unread {device : String} (henabled : replies.enabled device = none) :
    KeptStep (.enabled device) (.inl (ShellyPhase.afterError restarts (.enabled device)))
  | unsupported {device : String} {number} (henabled : replies.enabled device = some number) (hzero : number ≠ some 0)
    (hone : number ≠ some 1) : KeptStep (.enabled device) (.inr .dropped)
  | accepted {device : String} (haccepts : replies.accepts device = true) : KeptStep (.disable device) (.inr .applied)
  | refused {device : String} (haccepts : replies.accepts device = false) :
    KeptStep (.disable device) (.inl (ShellyPhase.afterError restarts (.disable device)))

/-- From the phase the channel of a matching device is disabled without a further discovery. -/
def Succeeds : ShellyPhase → Prop
  | .discover => False
  | .identify listed cursor => FirstMatches t replies (listed.drop cursor)
  | .enabled device => CanDisable replies device
  | .disable device => replies.accepts device = true

/-- From the phase the command is not applied, though there may be a matching device. -/
def Stuck : ShellyPhase → Prop
  | .discover => True
  | .identify listed cursor =>
    (∃ device ∈ listed.drop cursor, Matching t replies device) ∧ ¬ FirstMatches t replies (listed.drop cursor)
  | .enabled device => ¬ CanDisable replies device
  | .disable device => replies.accepts device = false

/-- The attempts that are left at most. -/
def ShellyPhase.measure (bound : Nat) : ShellyPhase → Nat
  | .discover => bound
  | .identify listed cursor => listed.length - cursor + 2
  | .enabled _ => 2
  | .disable _ => 1

end

section

variable {restarts : Bool} {entry phase : ShellyPhase} {result : PhaseResult}

theorem drop_of_getElem? {listed : List String} {cursor : Nat} (h : listed[cursor]? = some device) :
    listed.drop cursor = device :: listed.drop (cursor + 1) := by
  obtain ⟨hcursor, rfl⟩ := List.getElem?_eq_some_iff.mp h
  exact List.drop_eq_getElem_cons hcursor

/-- A step of a phase that succeeds ends the command as applied, or leads to a phase that succeeds with fewer attempts
left. -/
theorem KeptStep.succeeds (h : KeptStep t replies restarts entry phase result) (hphase : Succeeds t replies phase) :
    result = .inr .applied ∨
      ∃ next, result = .inl next ∧ Succeeds t replies next ∧ ∀ bound, next.measure bound < phase.measure bound := by
  cases h with
  | discover => exact hphase.elim
  | past hcursor => exact .inl rfl
  | last hdevice hother hcursor => exact .inl rfl
  | disabled henabled => exact .inl rfl
  | accepted haccepts => exact .inl rfl
  | @found listed cursor device hdevice hmatch =>
    have hfirst : FirstMatches t replies (listed.drop cursor) := hphase
    rw [drop_of_getElem? hdevice, firstMatches_cons] at hfirst
    refine .inr ⟨_, rfl, ?_, fun bound => ?_⟩
    · rcases hfirst with hfound | ⟨hother, -⟩
      · exact hfound.2
      · exact absurd hmatch (not_matching_of_other hother)
    · obtain ⟨hcursor, -⟩ := List.getElem?_eq_some_iff.mp hdevice
      show 2 < listed.length - cursor + 2
      omega
  | @other listed cursor device hdevice hother =>
    have hfirst : FirstMatches t replies (listed.drop cursor) := hphase
    rw [drop_of_getElem? hdevice, firstMatches_cons] at hfirst
    refine .inr ⟨_, rfl, ?_, fun bound => ?_⟩
    · rcases hfirst with hfound | ⟨-, hrest⟩
      · exact absurd hfound.1 (not_matching_of_other hother)
      · exact hrest
    · obtain ⟨hcursor, -⟩ := List.getElem?_eq_some_iff.mp hdevice
      show listed.length - (cursor + 1) + 2 < listed.length - cursor + 2
      omega
  | @silent listed cursor device hdevice hmatch hother =>
    have hfirst : FirstMatches t replies (listed.drop cursor) := hphase
    rw [drop_of_getElem? hdevice, firstMatches_cons] at hfirst
    rcases hfirst with hfound | ⟨hanother, -⟩
    · exact absurd hfound.1 hmatch
    · exact absurd hanother hother
  | enabled henabled =>
    refine .inr ⟨_, rfl, ?_, fun bound => Nat.lt_succ_self 1⟩
    rcases hphase with hzero | ⟨-, haccepts⟩
    · rw [henabled] at hzero
      simp at hzero
    · exact haccepts
  | unread henabled =>
    rcases hphase with hzero | ⟨hone, -⟩
    · rw [henabled] at hzero
      nomatch hzero
    · rw [henabled] at hone
      nomatch hone
  | @unsupported device number henabled hzero hone =>
    rcases hphase with hphase | ⟨hphase, -⟩
    · exact absurd (Option.some.inj (henabled.symm.trans hphase)) hzero
    · exact absurd (Option.some.inj (henabled.symm.trans hphase)) hone
  | refused haccepts =>
    have hphase : replies.accepts _ = true := hphase
    rw [haccepts] at hphase
    nomatch hphase

theorem stuck_afterError (h : Stuck t replies phase) : Stuck t replies (phase.afterError restarts) := by
  cases restarts with
  | true => trivial
  | false => exact h

theorem KeptStep.stuck (h : KeptStep t replies restarts entry phase result) (hentry : Stuck t replies entry)
    (hphase : Stuck t replies phase) : result = .inr .dropped ∨ ∃ next, result = .inl next ∧ Stuck t replies next := by
  cases h with
  | discover => exact .inr ⟨_, rfl, hentry⟩
  | @past listed cursor hcursor =>
    obtain ⟨⟨device, hmem, -⟩, -⟩ := hphase
    rw [List.drop_eq_nil_of_le hcursor] at hmem
    exact absurd hmem List.not_mem_nil
  | @found listed cursor device hdevice hmatch =>
    obtain ⟨-, hfirst⟩ := hphase
    rw [drop_of_getElem? hdevice, firstMatches_cons] at hfirst
    exact .inr ⟨_, rfl, fun hcan => hfirst (.inl ⟨hmatch, hcan⟩)⟩
  | @other listed cursor device hdevice hother =>
    obtain ⟨⟨found, hmem, hmatch⟩, hfirst⟩ := hphase
    rw [drop_of_getElem? hdevice] at hmem hfirst
    rw [firstMatches_cons] at hfirst
    refine .inr ⟨_, rfl, ⟨found, ?_, hmatch⟩, fun hrest => hfirst (.inr ⟨hother, hrest⟩)⟩
    rcases List.mem_cons.mp hmem with heq | hrest
    · exact absurd (heq ▸ hmatch) (not_matching_of_other hother)
    · exact hrest
  | @last listed cursor device hdevice hother hcursor =>
    obtain ⟨⟨found, hmem, hmatch⟩, -⟩ := hphase
    rw [drop_of_getElem? hdevice, List.drop_eq_nil_of_le hcursor, List.mem_singleton] at hmem
    exact absurd (hmem ▸ hmatch) (not_matching_of_other hother)
  | silent hdevice hmatch hother => exact .inr ⟨_, rfl, stuck_afterError hphase⟩
  | disabled henabled => exact absurd (.inl henabled) hphase
  | @enabled device henabled =>
    refine .inr ⟨_, rfl, ?_⟩
    show replies.accepts device = false
    rw [Bool.eq_false_iff]
    exact fun haccepts => hphase (.inr ⟨henabled, haccepts⟩)
  | unread henabled => exact .inr ⟨_, rfl, stuck_afterError hphase⟩
  | unsupported henabled hzero hone => exact .inl rfl
  | accepted haccepts =>
    have hphase : replies.accepts _ = false := hphase
    rw [haccepts] at hphase
    nomatch hphase
  | refused haccepts => exact .inr ⟨_, rfl, stuck_afterError hphase⟩

end

/-! ## Runs of a gateway -/

section

open Library

/-- A step function whose states are at a phase or at an end: its steps with the answers `Ok` are attempts that keep to
the replies, and an end is kept. -/
structure Keeps {σ ε : Type*} (t : ShellyTarget) (replies : DeviceReplies) (restarts : Bool) (entry : ShellyPhase)
    (step : σ → ε → σ) (At : σ → PhaseResult → Prop) (Ok : ε → Prop) : Prop where
  attempt : ∀ {s phase e}, At s (.inl phase) → Ok e →
    ∃ result, KeptStep t replies restarts entry phase result ∧ At (step s e) result
  ended : ∀ {s} {outcome : ShellyEnd} {e}, At s (.inr outcome) → At (step s e) (.inr outcome)

variable {σ ε : Type*} {restarts : Bool} {entry phase : ShellyPhase} {step : σ → ε → σ}
  {At : σ → PhaseResult → Prop}
  {Ok : ε → Prop} {s : σ} {es : List ε}

section

variable (h : Keeps t replies restarts entry step At Ok)
include h

theorem Keeps.run_ended {outcome : ShellyEnd}
    (hs : At s (.inr outcome)) (es : List ε) : At (run step s es) (.inr outcome) := by
  have hstep : ∀ s e, At s (.inr outcome) → At (step s e) (.inr outcome) := fun _ _ => h.ended
  exact run_invariant hstep hs es

/-- From a phase that succeeds, the command is applied within the attempts that are left. -/
theorem Keeps.run_succeeds (hs : At s (.inl phase))
    (hphase : Succeeds t replies phase) (hok : ∀ e ∈ es, Ok e) (hbound : phase.measure 0 ≤ es.length) :
    At (run step s es) (.inr .applied) := by
  induction es generalizing s phase with
  | nil =>
    cases phase with
    | discover => exact hphase.elim
    | identify | enabled | disable => nomatch hbound
  | cons e es ih =>
    obtain ⟨result, hstep, hnext⟩ := h.attempt hs (hok e List.mem_cons_self)
    have hrest : ∀ e ∈ es, Ok e := fun e he => hok e (List.mem_cons_of_mem _ he)
    rcases hstep.succeeds hphase with rfl | ⟨next, rfl, hsucceeds, hfewer⟩
    · exact h.run_ended hnext es
    · have hfewer := hfewer 0
      rw [List.length_cons] at hbound
      exact ih hnext hsucceeds hrest (by omega)

theorem Keeps.run_stuck (hentry : Stuck t replies entry)
    (hs : At s (.inl phase)) (hphase : Stuck t replies phase) (hok : ∀ e ∈ es, Ok e) :
    ∃ result, result ≠ .inr .applied ∧ At (run step s es) result := by
  induction es generalizing s phase with
  | nil => exact ⟨.inl phase, nofun, hs⟩
  | cons e es ih =>
    obtain ⟨result, hstep, hnext⟩ := h.attempt hs (hok e List.mem_cons_self)
    have hrest : ∀ e ∈ es, Ok e := fun e he => hok e (List.mem_cons_of_mem _ he)
    rcases hstep.stuck hentry hphase with rfl | ⟨next, rfl, hstuck⟩
    · exact ⟨.inr .dropped, nofun, h.run_ended hnext es⟩
    · exact ih hnext hstuck hrest

/-- A command that starts with the discovery is not applied where the phase after it does not succeed. -/
theorem Keeps.succeeds_of_applied (hs : At s (.inl .discover))
    (hentry : ¬ Succeeds t replies entry → Stuck t replies entry) (hok : ∀ e ∈ es, Ok e)
    (happlied : ∀ result, At (run step s es) result → result = .inr .applied) : Succeeds t replies entry := by
  by_contra hfails
  obtain ⟨result, hresult, hlast⟩ := h.run_stuck (hentry hfails) hs trivial hok
  exact hresult (happlied result hlast)

/-- Where the phase after it succeeds, it is applied with an attempt more than are left there. -/
theorem Keeps.applied_of_succeeds (hs : At s (.inl .discover))
    (hentry : Succeeds t replies entry) (hok : ∀ e ∈ es, Ok e) (hbound : entry.measure 0 < es.length) :
    At (run step s es) (.inr .applied) := by
  cases es with
  | nil => nomatch hbound
  | cons e es =>
    obtain ⟨result, hstep, hnext⟩ := h.attempt hs (hok e List.mem_cons_self)
    cases hstep with
    | discover =>
      rw [run_cons]
      exact h.run_succeeds hnext hentry (fun e he => hok e (List.mem_cons_of_mem _ he)) (Nat.le_of_lt_succ hbound)

end

end

end VenusEvcharger
