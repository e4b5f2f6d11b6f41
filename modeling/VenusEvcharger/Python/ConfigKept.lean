import VenusEvcharger.Python.ConfigEditor

/-!
# Editing keeps the configuration

`LineEditor.keeps`: an editor that sees the lines, the assignments to the given options and the end of the default section
as the parser reads them changes these options only.
-/

namespace VenusEvcharger

open Library

namespace ConfigParser

open Reading

/-! ## Given options -/

/-- The characters that end a line for `str.splitlines`. -/
def isLineBoundary (c : Char) : Bool :=
  let n := c.toNat
  (10 ≤ n && n ≤ 13) || (28 ≤ n && n ≤ 30) || n == 0x85 || n == 0x2028 || n == 0x2029

theorem isSpace_of_isLineBoundary {c : Char} (h : isLineBoundary c = true) : isSpace c = true := by
  simp only [isLineBoundary, isSpace, Bool.or_eq_true, Bool.and_eq_true, decide_eq_true_eq, beq_iff_eq] at h ⊢
  omega

theorem isLineBoundary_of_isLineBreak {c : Char} (h : isLineBreak c = true) : isLineBoundary c = true := by
  simp only [isLineBreak, Bool.or_eq_true, beq_iff_eq] at h
  rcases h with rfl | rfl <;> rfl

/-- The text fits on a line and has no delimiter of its own. -/
structure PlainText (value : String) : Prop where
  nonempty : value ≠ ""
  plain : ∀ c ∈ value.toList, isSpace c = false ∧ c ≠ '='

instance (value : String) : Decidable (PlainText value) :=
  decidable_of_iff (value ≠ "" ∧ ∀ c ∈ value.toList, isSpace c = false ∧ c ≠ '=')
    ⟨fun ⟨hnonempty, hplain⟩ => ⟨hnonempty, hplain⟩, fun h => ⟨h.nonempty, h.plain⟩⟩

theorem PlainText.trimmed {value : String} (h : PlainText value) : Trimmed value := by
  refine ⟨fun c hc => ?_, fun c hc => ?_⟩
  · rw [(h.plain c (List.mem_of_mem_head? hc)).1]
    exact Bool.false_ne_true
  · rw [(h.plain c (List.mem_of_getLast? hc)).1]
    exact Bool.false_ne_true

theorem PlainText.unbroken {value : String} (h : PlainText value) : ∀ c ∈ value.toList, isLineBoundary c = false := by
  intro c hc
  by_contra hbreak
  have hspace := isSpace_of_isLineBoundary (Bool.not_eq_false _ ▸ hbreak)
  exact absurd hspace (by simp [(h.plain c hc).1])

/-- Options of different names with their new values. -/
structure GivenOptions (optionxform : String → String) (values : List (String × String)) : Prop where
  nonempty : values ≠ []
  distinct : (values.map fun item => optionxform item.1).Nodup
  names : ∀ item ∈ values, NameText item.1
  unbroken : ∀ item ∈ values, ∀ c ∈ item.1.toList, isLineBoundary c = false
  plain : ∀ item ∈ values, PlainText item.2

instance (optionxform : String → String) (values : List (String × String)) : Decidable (GivenOptions optionxform values) :=
  decidable_of_iff (values ≠ [] ∧ (values.map fun item => optionxform item.1).Nodup ∧ (∀ item ∈ values, NameText item.1) ∧
      (∀ item ∈ values, ∀ c ∈ item.1.toList, isLineBoundary c = false) ∧ ∀ item ∈ values, PlainText item.2)
    ⟨fun ⟨hnonempty, hdistinct, hnames, hunbroken, hplain⟩ => ⟨hnonempty, hdistinct, hnames, hunbroken, hplain⟩,
      fun h => ⟨h.nonempty, h.distinct, h.names, h.unbroken, h.plain⟩⟩

/-- The new value of an option. -/
def newValue (optionxform : String → String) (values : List (String × String)) (key : String) : Option String :=
  (values.find? fun item => optionxform item.1 = key).map Prod.snd

variable {optionxform : String → String} {values : List (String × String)} {key : String}

variable {item : String × String}

section

variable (h : GivenOptions optionxform values)
include h

theorem GivenOptions.unique {other : String × String} (hitem : item ∈ values)
    (hother : other ∈ values) (hkey : optionxform other.1 = optionxform item.1) : other = item :=
  List.inj_on_of_nodup_map h.distinct hother hitem hkey

/-- A search by name finds the option. -/
theorem GivenOptions.find_eq (hitem : item ∈ values)
    {p : String × String → Bool} (hp : p item = true)
    (hname : ∀ other, p other = true → optionxform other.1 = optionxform item.1) : values.find? p = some item := by
  cases hfind : values.find? p with
  | none => exact absurd hp (List.find?_eq_none.mp hfind item hitem)
  | some other =>
    rw [h.unique hitem (List.mem_of_find?_eq_some hfind) (hname other (List.find?_some hfind))]

theorem GivenOptions.newValue_eq (hitem : item ∈ values) :
    newValue optionxform values (optionxform item.1) = some item.2 := by
  rw [newValue, h.find_eq hitem (decide_eq_true rfl) fun other hother => by simpa using hother]
  rfl

end

theorem newValue_some {value : String} (h : newValue optionxform values key = some value) :
    ∃ item ∈ values, optionxform item.1 = key ∧ item.2 = value := by
  obtain ⟨item, hfind, rfl⟩ := Option.map_eq_some_iff.mp h
  exact ⟨item, List.mem_of_find?_eq_some hfind, by simpa using List.find?_some hfind, rfl⟩

theorem newValue_none (h : ∀ item ∈ values, optionxform item.1 ≠ key) : newValue optionxform values key = none := by
  cases hnew : newValue optionxform values key with
  | none => rfl
  | some value =>
    obtain ⟨item, hitem, hkey, -⟩ := newValue_some hnew
    exact absurd hkey (h item hitem)

theorem GivenOptions.insertedLine (h : GivenOptions optionxform values) (hitem : item ∈ values) :
    ∀ c ∈ insertedLine item, isLineBoundary c = false := by
  intro c hc
  rcases List.mem_append.mp hc with hc | hc
  · exact h.unbroken item hitem c hc
  · rcases List.mem_cons.mp hc with rfl | hc
    · rfl
    · exact (h.plain item hitem).unbroken c hc

theorem not_isLineBreak {c : Char} (h : isLineBoundary c = false) : isLineBreak c = false := by
  by_contra hbreak
  have hboundary := isLineBoundary_of_isLineBreak (Bool.not_eq_false _ ▸ hbreak)
  exact absurd hboundary (by simp [h])

/-! ## Where an option is set -/

/-- After the earlier lines the parser reads the line as this option of the default section. -/
def Sets (optionxform : String → String) (earlier : List (List Char)) (line : List Char) (key : String) : Prop :=
  ∃ r r₁, start.readLines optionxform (earlier.flatMap linesOf) = .ok r ∧ r.readLines optionxform (linesOf line) = .ok r₁ ∧
    r.defaults.get? key = none ∧ r₁.defaults.get? key ≠ none

instance (earlier : List (List Char)) (line : List Char) (key : String) : Decidable (Sets optionxform earlier line key) :=
  match hr : start.readLines optionxform (earlier.flatMap linesOf) with
  | .error _ => .isFalse fun ⟨_, _, h, _⟩ => nomatch hr.symm.trans h
  | .ok r =>
    match hr₁ : r.readLines optionxform (linesOf line) with
    | .error _ => .isFalse fun ⟨_, _, h, h₁, _⟩ => by
        obtain rfl := Except.ok.inj (hr.symm.trans h)
        nomatch hr₁.symm.trans h₁
    | .ok r₁ => decidable_of_iff (r.defaults.get? key = none ∧ r₁.defaults.get? key ≠ none) ⟨
        fun ⟨hbefore, hafter⟩ => ⟨r, r₁, hr, hr₁, hbefore, hafter⟩, fun ⟨_, _, h, h₁, hbefore, hafter⟩ => by
          obtain rfl := Except.ok.inj (hr.symm.trans h)
          obtain rfl := Except.ok.inj (hr₁.symm.trans h₁)
          exact ⟨hbefore, hafter⟩⟩

/-- An option that is there in the end was set by one of the lines. -/
theorem exists_sets {earlier lines : List (List Char)} {r r₁ : Reading}
    (hearlier : start.readLines optionxform (earlier.flatMap linesOf) = .ok r) (hbefore : r.defaults.get? key = none)
    (hlines : r.readLines optionxform (lines.flatMap linesOf) = .ok r₁) (hafter : r₁.defaults.get? key ≠ none) :
    ∃ front line back, lines = front ++ line :: back ∧ Sets optionxform (earlier ++ front) line key := by
  induction lines generalizing earlier r with
  | nil =>
    cases hlines
    exact absurd hbefore hafter
  | cons line lines ih =>
    rw [List.flatMap_cons] at hlines
    obtain ⟨next, hline, hlines⟩ := readLines_append_ok hlines
    by_cases hnext : next.defaults.get? key = none
    · have hearlier' : start.readLines optionxform ((earlier ++ [line]).flatMap linesOf) = .ok next := by
        rw [List.flatMap_append, readLines_append hearlier, List.flatMap_singleton]
        exact hline
      obtain ⟨front, other, back, rfl, hsets⟩ := ih hearlier' hnext hlines
      refine ⟨line :: front, other, back, rfl, ?_⟩
      rwa [List.append_assoc, List.singleton_append] at hsets
    · exact ⟨[], line, lines, rfl, r, next, by rwa [List.append_nil], hline, hbefore, hnext⟩

namespace LineEditor

/-! ## Seeing the lines as the parser reads them -/

/-- The editor sees a text as the parser reads it, as far as the given options are concerned. -/
structure ReadsAlike (e : LineEditor) (optionxform : String → String) (values : List (String × String)) (text : List Char)
    (c : ConfigParser) : Prop where
  /-- The lines put together are the lines of the parser. -/
  lines : splitLines text = (e.lines text).flatMap linesOf
  ended : ∀ line ∈ e.lines text, OneLine e.isBreak line
  /-- A line is edited for an option exactly when the parser reads it as this option of the default section. -/
  assigned : ∀ earlier line later, e.lines text = earlier ++ line :: later → ∀ item ∈ values,
    (earlier.length < e.bound (e.lines text) ∧ e.assigned values line = some item ↔
      Sets optionxform earlier line (optionxform item.1))
  one : ∀ line ∈ e.lines text, e.assigned values line ≠ none → ∀ c ∈ line, isLineBreak c = false
  /-- The old values have one line each. -/
  single : ∀ item ∈ values, ∀ old ∈ c.defaults.get? (optionxform item.1), '\n' ∉ old.toList
  /-- Options are inserted at the end of the default section. -/
  place : e.missing values ((e.lines text).take (e.bound (e.lines text))) ≠ [] →
    (∀ r, start.readLines optionxform (((e.lines text).take (e.bound (e.lines text))).flatMap linesOf) = .ok r →
      r.sectname = some defaultSection) ∧
    ∀ first more, ((e.lines text).drop (e.bound (e.lines text))).flatMap linesOf = first :: more → opensSection first = true

theorem eq_ok_of_mem_toOption {ε α : Type*} {result : Except ε α} {a : α} (h : a ∈ result.toOption) : result = .ok a := by
  cases result with
  | error _ => exact nomatch h
  | ok b => rw [Option.some.inj h]

instance (e : LineEditor) (values : List (String × String)) (text : List Char) (c : ConfigParser) :
    Decidable (e.ReadsAlike optionxform values text c) :=
  decidable_of_iff
    (splitLines text = (e.lines text).flatMap linesOf ∧ (∀ line ∈ e.lines text, OneLine e.isBreak line) ∧
      (∀ i (h : i < (e.lines text).length), ∀ item ∈ values,
        (i < e.bound (e.lines text) ∧ e.assigned values (e.lines text)[i] = some item ↔
          Sets optionxform ((e.lines text).take i) (e.lines text)[i] (optionxform item.1))) ∧
      (∀ line ∈ e.lines text, e.assigned values line ≠ none → ∀ c ∈ line, isLineBreak c = false) ∧
      (∀ item ∈ values, ∀ old ∈ c.defaults.get? (optionxform item.1), '\n' ∉ old.toList) ∧
      (e.missing values ((e.lines text).take (e.bound (e.lines text))) ≠ [] →
        (∀ r ∈ (start.readLines optionxform (((e.lines text).take (e.bound (e.lines text))).flatMap linesOf)).toOption,
          r.sectname = some defaultSection) ∧
        ∀ first ∈ (((e.lines text).drop (e.bound (e.lines text))).flatMap linesOf).head?, opensSection first = true))
    ⟨fun ⟨hlines, hended, hassigned, hone, hsingle, hplace⟩ => {
        lines := hlines
        ended := hended
        assigned := fun earlier line later hsplit item hitem => by
          have hlt : earlier.length < (e.lines text).length := by
            rw [hsplit, List.length_append, List.length_cons]
            omega
          have hat := hassigned earlier.length hlt item hitem
          simpa only [hsplit, List.getElem_append_right (Nat.le_refl _), Nat.sub_self, List.getElem_cons_zero,
            List.take_left] using hat
        one := hone
        single := hsingle
        place := fun hmissing => ⟨fun r hr => (hplace hmissing).1 r (by rw [hr]; rfl),
          fun first more hfirst => (hplace hmissing).2 first (by rw [hfirst]; rfl)⟩ },
      fun h => ⟨h.lines, h.ended, fun i hlt => by
          have hat := h.assigned ((e.lines text).take i) (e.lines text)[i] ((e.lines text).drop (i + 1))
            (by rw [← List.drop_eq_getElem_cons hlt, List.take_append_drop])
          rwa [List.length_take_of_le hlt.le] at hat,
        h.one, h.single, fun hmissing => ⟨fun r hr => (h.place hmissing).1 r (eq_ok_of_mem_toOption hr), fun first hfirst => by
          obtain ⟨more, hmore⟩ := List.head?_eq_some_iff.mp hfirst
          exact (h.place hmissing).2 first more hmore⟩⟩⟩

/-- The edited text is read as the configuration with the given options, has the same comments, and is edited into
itself. -/
structure Keeps (optionxform : String → String) (values : List (String × String)) (upsert : List Char → List Char)
    (text : List Char) (c : ConfigParser) : Prop where
  read : ∃ c', readTextAs optionxform (upsert text) = .ok c' ∧ c'.sections = c.sections ∧
    (∀ item ∈ values, c'.defaults.get? (optionxform item.1) = some item.2) ∧
      ∀ key, (∀ item ∈ values, optionxform item.1 ≠ key) → c'.defaults.get? key = c.defaults.get? key
  comments : commentLines (upsert text) = commentLines text
  again : upsert (upsert text) = upsert text

variable {e : LineEditor} {text : List Char} {c : ConfigParser}

theorem take_split {lines earlier later : List (List Char)} {line : List Char} {n : Nat}
    (h : lines.take n = earlier ++ line :: later) : earlier.length < n ∧ ∃ rest, lines = earlier ++ line :: rest := by
  have hlength : earlier.length < (lines.take n).length := by
    rw [h, List.length_append, List.length_cons]
    omega
  refine ⟨by rw [List.length_take] at hlength; omega, later ++ lines.drop n, ?_⟩
  conv_lhs => rw [← List.take_append_drop n lines, h]
  rw [List.append_assoc, List.cons_append]

section

variable (h : e.ReadsAlike optionxform values text c)
include h

theorem ReadsAlike.plan (hlawful : e.Lawful values) (hgiven : GivenOptions optionxform values) :
    EditPlan optionxform (newValue optionxform values) ((e.lines text).take (e.bound (e.lines text)))
      ((e.lines text).drop (e.bound (e.lines text))) (e.edit values)
      (e.missing values ((e.lines text).take (e.bound (e.lines text)))) insertedLine where
  edited earlier line later hsplit r r₁ hr hr₁ := by
    obtain ⟨hinside, rest, hlines⟩ := take_split hsplit
    -- A line that assigns no new value stays as it is; one that does is rewritten.
    cases hassigned : e.assigned values line with
    | none =>
      have hedit : e.edit values line = line := by rw [edit, hassigned]
      rw [hedit]
      refine .kept fun key hnew hbefore => ?_
      by_contra hafter
      obtain ⟨value, hvalue⟩ := Option.isSome_iff_exists.mp hnew
      obtain ⟨item, hitem, rfl, -⟩ := newValue_some hvalue
      have hfound := ((h.assigned _ _ _ hlines item hitem).mpr ⟨r, r₁, hr, hr₁, hbefore, hafter⟩).2
      cases hassigned.symm.trans hfound
    | some item =>
      have hedit : e.edit values line = e.rewrite line item.2 := by rw [edit, hassigned]
      have hitem := hlawful.mem hassigned
      obtain ⟨s, s₁, hs, hs₁, hbefore, hafter⟩ := (h.assigned _ _ _ hlines item hitem).mp ⟨hinside, hassigned⟩
      obtain rfl : s = r := Except.ok.inj (hs.symm.trans hr)
      obtain rfl : s₁ = r₁ := Except.ok.inj (hs₁.symm.trans hr₁)
      have hrewrites := hlawful.rewrites hassigned
      obtain ⟨name, hname, ⟨optval, hoption⟩, hoption'⟩ := hrewrites.option (hgiven.plain item hitem).trimmed
      have hone := h.one line (by rw [hlines]; simp) (by rw [hassigned]; exact Option.some_ne_none _)
      have hone' : ∀ d ∈ e.rewrite line item.2, isLineBreak d = false := by
        intro d hd
        rcases hrewrites.mem d hd with hd | hd
        · exact hone d hd
        · exact not_isLineBreak ((hgiven.plain item hitem).unbroken d hd)
      rw [hedit]
      exact .replaced (linesOf_line hone) (linesOf_line hone') hoption hoption' hname.named hname.named rfl (congrArg List.length hrewrites.indent)
        (hgiven.newValue_eq hitem) hbefore hafter
  -- A line behind the bound sets no new option, for the editor would have found it.
  kept r r₁ hr hr₁ key hnew hbefore := by
    by_contra hafter
    obtain ⟨value, hvalue⟩ := Option.isSome_iff_exists.mp hnew
    obtain ⟨item, hitem, rfl, -⟩ := newValue_some hvalue
    obtain ⟨front, line, back, hdrop, hsets⟩ := exists_sets hr hbefore hr₁ hafter
    have hlines : e.lines text = (e.lines text).take (e.bound (e.lines text)) ++ front ++ line :: back := by
      rw [List.append_assoc, ← hdrop, List.take_append_drop]
    have hinside := ((h.assigned _ _ _ hlines item hitem).mpr hsets).1
    rw [List.length_append, List.length_take] at hinside
    have hlength := congrArg List.length hdrop
    rw [List.length_drop, List.length_append, List.length_cons] at hlength
    omega
  inserted item hitem := by
    have hitem : item ∈ values := List.mem_of_mem_filter hitem
    have hname := hgiven.names item hitem
    have htrimmed := (hgiven.plain item hitem).trimmed
    have hblank : ∀ c ∈ ([] : List Char), isSpace c = true := List.forall_mem_nil _
    have hoption := optionLine_assignmentText hblank hblank hname (show '=' ∈ ['=', ':'] by decide) item.2.toList
    rw [← insertedLine_eq, String.ofList_toList, strip_eq_self_iff.mpr htrimmed] at hoption
    refine ⟨linesOf_line fun d hd => not_isLineBreak (hgiven.insertedLine hitem d hd), hoption, hname.named, ?_,
      hgiven.newValue_eq hitem⟩
    rw [insertedLine_eq]
    exact takeWhile_assignmentText hblank hname _ _ _
  distinct := hgiven.distinct.sublist (List.filter_sublist.map _)
  place := h.place
  values key value hvalue := by
    obtain ⟨item, hitem, -, rfl⟩ := newValue_some hvalue
    exact (hgiven.plain item hitem).trimmed

/-- The options that are inserted are not there before. -/
theorem ReadsAlike.absent (hread : readTextAs optionxform text = .ok c) :
    ∀ item ∈ e.missing values ((e.lines text).take (e.bound (e.lines text))),
      c.defaults.get? (optionxform item.1) = none := by
  intro item hmissing
  obtain ⟨hitem, hunassigned⟩ := List.mem_filter.mp hmissing
  obtain ⟨last, hlines, hfinish⟩ := bind_eq_ok.mp hread
  obtain ⟨-, -, hdefaults⟩ := finish_ok hfinish
  rw [hdefaults, Option.map_eq_none_iff]
  by_contra hset
  rw [h.lines] at hlines
  have hstart : start.readLines optionxform (([] : List (List Char)).flatMap linesOf) = .ok start := rfl
  obtain ⟨front, line, back, hsplit, hsets⟩ := exists_sets hstart rfl hlines hset
  obtain ⟨hinside, hassigned⟩ := (h.assigned _ _ _ hsplit item hitem).mpr hsets
  rw [decide_eq_true_iff] at hunassigned
  refine hunassigned line ?_ hassigned
  rw [hsplit] at hinside ⊢
  exact List.mem_take_iff_getElem.mpr ⟨front.length, by simpa using hinside, by simp⟩

/-- An option that is not inserted is there before. -/
theorem ReadsAlike.present (hread : readTextAs optionxform text = .ok c)
    {item : String × String} (hitem : item ∈ values)
    (hfound : item ∉ e.missing values ((e.lines text).take (e.bound (e.lines text)))) :
    (c.defaults.get? (optionxform item.1)).isSome := by
  have hassigned : ∃ line ∈ (e.lines text).take (e.bound (e.lines text)), e.assigned values line = some item := by
    by_contra hunassigned
    refine hfound (List.mem_filter.mpr ⟨hitem, decide_eq_true fun line hline hassigned => ?_⟩)
    exact hunassigned ⟨line, hline, hassigned⟩
  obtain ⟨line, hline, hassigned⟩ := hassigned
  obtain ⟨earlier, later, hsplit⟩ := List.append_of_mem hline
  obtain ⟨hinside, rest, hlines⟩ := take_split hsplit
  obtain ⟨r, r₁, hr, hr₁, -, hset⟩ := (h.assigned _ _ _ hlines item hitem).mp ⟨hinside, hassigned⟩
  obtain ⟨last, hread, hfinish⟩ := bind_eq_ok.mp hread
  obtain ⟨-, -, hdefaults⟩ := finish_ok hfinish
  have hsplit : splitLines text = earlier.flatMap linesOf ++ (linesOf line ++ rest.flatMap linesOf) := by
    rw [h.lines, hlines, List.flatMap_append, List.flatMap_cons]
  rw [hsplit] at hread
  have hrest : r₁.readLines optionxform (rest.flatMap linesOf) = .ok last := by
    rw [← readLines_append hr₁, ← readLines_append hr]
    exact hread
  rw [hdefaults, Option.isSome_map, Option.isSome_iff_ne_none]
  exact fun hnone => hset (((sound_start.readLines hr).readLines hr₁).none_before hrest hnone)

end

/-- Where the editor sees the text as the parser reads it, the given options change and nothing else does. -/
theorem keeps (hlawful : e.Lawful values) (hgiven : GivenOptions optionxform values)
    (hread : readTextAs optionxform text = .ok c) (h : e.ReadsAlike optionxform values text c) :
    Keeps optionxform values (e.upsert values) text c := by
  have hplan := h.plan hlawful hgiven
  have hjoined : readTextAs optionxform (joinedLines ((e.lines text).take (e.bound (e.lines text)) ++
      (e.lines text).drop (e.bound (e.lines text)))) = .ok c := by
    rw [List.take_append_drop, readTextAs_joinedLines, ← h.lines]
    exact hread
  refine ⟨?_, ?_, ?_⟩
  · have hsingle : ∀ key, (newValue optionxform values key).isSome → ∀ old ∈ c.defaults.get? key, '\n' ∉ old.toList := by
      intro key hnew
      obtain ⟨value, hvalue⟩ := Option.isSome_iff_exists.mp hnew
      obtain ⟨item, hitem, rfl, -⟩ := newValue_some hvalue
      exact h.single item hitem
    obtain ⟨c', hread', hsections, hdefaults⟩ := hplan.read hjoined hsingle (h.absent hread)
    refine ⟨c', hread', hsections, fun item hitem => ?_, fun key hother => ?_⟩
    · rw [hdefaults, hgiven.newValue_eq hitem]
      refine if_pos ?_
      by_cases hfound : item ∈ e.missing values ((e.lines text).take (e.bound (e.lines text)))
      · exact .inr ⟨item, hfound, rfl⟩
      · exact .inl (h.present hread hitem hfound)
    · rw [hdefaults, newValue_none hother]
  · have hcomments := hplan.comments hjoined
    have hsame : commentLines text = commentLines (joinedLines (e.lines text)) := by
      rw [commentLines, commentLines, splitLines_joinedLines, h.lines]
    rw [List.take_append_drop] at hcomments
    exact hcomments.trans hsame.symm
  · have hbound : e.bound (e.lines text) ≠ 0 := by
      intro hzero
      have hplace := h.place
      rw [hzero, List.take_zero] at hplace
      have hmissing : e.missing values [] ≠ [] := by
        obtain ⟨item, hitem⟩ := List.exists_mem_of_ne_nil _ hgiven.nonempty
        exact List.ne_nil_of_mem (List.mem_filter.mpr ⟨hitem, decide_eq_true (List.forall_mem_nil _)⟩)
      cases (hplace hmissing).1 start rfl
    have hone : ∀ line ∈ e.editedLines values (e.lines text), OneLine e.isBreak line := by
      intro line hline
      rcases List.mem_append.mp hline with hline | hline
      · rcases List.mem_append.mp hline with hline | hline
        · obtain ⟨old, hold, rfl⟩ := List.mem_map.mp hline
          exact oneLine_edit hlawful (h.ended old (List.mem_of_mem_take hold))
        · obtain ⟨item, hitem, rfl⟩ := List.mem_map.mp hline
          exact (hlawful.inserted item (List.mem_of_mem_filter hitem)).1
      · exact h.ended line (List.mem_of_mem_drop hline)
    have hlines : e.lines (e.upsert values text) = e.editedLines values (e.lines text) :=
      linesBy_joinedLines_self hlawful.newline hone
    rw [upsert, hlines, editedLines_editedLines hlawful hbound]
    rfl

end LineEditor

end ConfigParser

end VenusEvcharger
