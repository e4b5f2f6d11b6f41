import VenusEvcharger.Inputs.CapacityPersistence

/-!
# The native update of the configuration

The native helper writes the estimated capacity with a search of its own: a key is found in any case and with either
delimiter, and the part that is edited ends at the first section but the default one.
-/

namespace VenusEvcharger.AutoInputHelper

open Library ConfigParser

/-! ## Texts of the native helper -/

/-- `char::is_whitespace`. -/
def isWhitespace (c : Char) : Bool := isSpace c && !(28 ≤ c.toNat && c.toNat ≤ 31)

/-- `str::trim`. -/
def trim (text : List Char) : List Char := (text.dropWhile isWhitespace).rdropWhile isWhitespace

/-- `str::eq_ignore_ascii_case`. -/
def eqIgnoreAsciiCase (a b : List Char) : Bool := a.map Char.toLower = b.map Char.toLower

/-- `str::lines`. -/
def nativeLines (text : List Char) : List (List Char) := linesBy (· == '\n') text

/-! ## The update -/

/-- The test of `first_non_default_section`. -/
def isNonDefaultSection (line : List Char) : Bool :=
  let trimmed := trim line
  trimmed.head? == some '[' && trimmed.getLast? == some ']' &&
    !eqIgnoreAsciiCase (trim trimmed.tail.dropLast) "default".toList

/-- `first_non_default_section`. -/
def firstNonDefaultSection (lines : List (List Char)) : Option Nat := lines.findIdx? isNonDefaultSection

/-- `assignment_key_and_separator`. -/
def assignmentKeyAndSeparator (line : List Char) : Option (List Char × Nat) :=
  let trimmed := line.dropWhile isWhitespace
  if trimmed = [] || trimmed.head? == some '#' || trimmed.head? == some ';' then none
  else
    ((line.findIdx? (· == '=')).or (line.findIdx? (· == ':'))).bind fun separator =>
      let key := trim (line.take separator)
      if key = [] then none else some (key, separator)

/-- One line of the loop: the new line, and the index of the value that it has. -/
def updatedLine (values : List (String × String)) (line : List Char) : List Char × Option Nat :=
  match assignmentKeyAndSeparator line with
  | none => (line, none)
  | some (key, separator) =>
    match values.zipIdx.find? fun item => eqIgnoreAsciiCase item.1.1.toList key with
    | none => (line, none)
    | some (item, index) =>
      let blanks := (line.drop (separator + 1)).takeWhile isWhitespace
      (line.take (separator + 1) ++ blanks ++ item.2.toList, some index)

/-- `upsert_default_values`. -/
def upsertDefaultValues (values : List (String × String)) (text : List Char) : List Char :=
  let lines := nativeLines text
  let insertion := (firstNonDefaultSection lines).getD lines.length
  let updated := (lines.take insertion).map (updatedLine values)
  let seen := updated.filterMap Prod.snd
  let missing := (values.zipIdx.filter fun item => item.2 ∉ seen).map fun item => item.1.1.toList ++ '=' :: item.1.2.toList
  let result := ['\n'].intercalate (updated.map Prod.fst ++ missing ++ lines.drop insertion)
  if text.getLast? = some '\n' ∨ result ≠ [] then result ++ ['\n'] else result

/-! ## Letters and blanks -/

variable {c : Char}

theorem isSpace_of_isWhitespace (h : isWhitespace c = true) : isSpace c = true :=
  (Bool.and_eq_true_iff.mp h).1

theorem not_isWhitespace (h : isSpace c = false) : isWhitespace c = false := by
  rw [isWhitespace, h, Bool.false_and]

/-- A character that is no letter is in the same place of a text that differs in the case only. -/
theorem eq_of_toLower_eq_toLower {d : Char} (h : c.toLower = d.toLower)
    (hd : d.toNat < 65 ∨ (90 < d.toNat ∧ d.toNat < 97) ∨ 122 < d.toNat) : c = d := by
  have hself : d.toLower = d := by
    refine dif_neg ?_
    rintro ⟨hlow, hhigh⟩
    have hlow : 65 ≤ d.toNat := hlow
    have hhigh : d.toNat ≤ 90 := hhigh
    omega
  exact eq_of_toLower_eq (h.trans hself) (by omega)

theorem mem_of_eqIgnoreAsciiCase {a b : List Char} (h : eqIgnoreAsciiCase a b = true) (hc : c ∈ b) :
    ∃ d ∈ a, d.toLower = c.toLower := by
  have hmem : c.toLower ∈ a.map Char.toLower := by
    rw [of_decide_eq_true h]
    exact List.mem_map_of_mem hc
  exact List.mem_map.mp hmem

theorem nameText_of_eqIgnoreAsciiCase {name : String} (hname : NameText name) {key : List Char}
    (h : eqIgnoreAsciiCase name.toList key = true) : NameText (String.ofList key) := by
  have hletters : ∀ c, isSpace c = true → c.toNat < 65 ∨ (90 < c.toNat ∧ c.toNat < 97) ∨ 122 < c.toNat := by
    intro c hc
    simp only [isSpace, Bool.or_eq_true, Bool.and_eq_true, decide_eq_true_eq, beq_iff_eq] at hc
    omega
  have hmap : name.toList.map Char.toLower = key.map Char.toLower := of_decide_eq_true h
  have hhead : ∀ c ∈ key.head?, ∃ d ∈ name.toList.head?, d.toLower = c.toLower := by
    intro c hc
    have hheads := congrArg List.head? hmap
    rw [List.head?_map, List.head?_map, Option.mem_def.mp hc] at hheads
    exact Option.map_eq_some_iff.mp hheads
  have hlast : ∀ c ∈ key.getLast?, ∃ d ∈ name.toList.getLast?, d.toLower = c.toLower := by
    intro c hc
    have hlasts := congrArg List.getLast? hmap
    rw [List.getLast?_map, List.getLast?_map, Option.mem_def.mp hc] at hlasts
    exact Option.map_eq_some_iff.mp hlasts
  refine ⟨⟨fun c hc hspace => ?_, fun c hc hspace => ?_⟩, fun hempty => ?_, fun c hc => ?_, fun c hc hmark => ?_⟩
  · rw [String.toList_ofList] at hc
    obtain ⟨d, hd, heq⟩ := hhead c hc
    exact hname.trimmed.1 d hd (eq_of_toLower_eq_toLower heq (hletters c hspace) ▸ hspace)
  · rw [String.toList_ofList] at hc
    obtain ⟨d, hd, heq⟩ := hlast c hc
    exact hname.trimmed.2 d hd (eq_of_toLower_eq_toLower heq (hletters c hspace) ▸ hspace)
  · have hkey : key = [] := by simpa using hempty
    rw [hkey, List.map_nil, List.map_eq_nil_iff, String.toList_eq_nil_iff] at hmap
    exact hname.named hmap
  · rw [String.toList_ofList] at hc
    obtain ⟨d, hd, heq⟩ := mem_of_eqIgnoreAsciiCase h hc
    refine ⟨fun hdelimiter => ?_, fun hdelimiter => ?_⟩
    · subst hdelimiter
      exact (hname.delimiters d hd).1 (eq_of_toLower_eq_toLower heq (by decide))
    · subst hdelimiter
      exact (hname.delimiters d hd).2 (eq_of_toLower_eq_toLower heq (by decide))
  · rw [String.toList_ofList] at hc
    obtain ⟨d, hd, heq⟩ := hhead c hc
    have hmarks : ∀ e ∈ ['[', '#', ';'], e.toNat < 65 ∨ (90 < e.toNat ∧ e.toNat < 97) ∨ 122 < e.toNat := by decide
    exact hname.first d hd (eq_of_toLower_eq_toLower heq (hmarks c hmark) ▸ hmark)

/-! ## Assignments -/

/-- The parts of a line that assigns to a key. -/
structure Assignment where
  indent : List Char
  key : List Char
  gap : List Char
  delimiter : Char
  rest : List Char

/-- The key is what stands between blanks in front of the separator, which is an equals sign if there is one. -/
structure Assignment.WellFormed (a : Assignment) : Prop where
  indent : ∀ c ∈ a.indent, isWhitespace c = true
  name : NameText (String.ofList a.key)
  gap : ∀ c ∈ a.gap, isWhitespace c = true
  delimiter : a.delimiter ∈ ['=', ':']
  colon : a.delimiter = ':' → '=' ∉ a.rest

/-- The line of an assignment. -/
def Assignment.line (a : Assignment) : List Char := a.indent ++ (a.key ++ a.gap ++ a.delimiter :: a.rest)

/-- The index of the separator. -/
def Assignment.separator (a : Assignment) : Nat := (a.indent ++ a.key ++ a.gap).length

theorem findIdx?_split {line : List Char} {p : Char → Bool} {separator : Nat} (h : line.findIdx? p = some separator) :
    ∃ d rest, line = line.take separator ++ d :: rest ∧ p d = true ∧ (line.take separator).length = separator := by
  obtain ⟨hlt, hd, -⟩ := List.findIdx?_eq_some_iff_getElem.mp h
  refine ⟨_, line.drop (separator + 1), ?_, hd, List.length_take_of_le hlt.le⟩
  rw [← List.drop_eq_getElem_cons hlt, List.take_append_drop]

theorem assignment_of_some {line key : List Char} {separator : Nat}
    (h : assignmentKeyAndSeparator line = some (key, separator)) (hname : NameText (String.ofList key)) :
    ∃ a : Assignment, a.WellFormed ∧ a.line = line ∧ a.key = key ∧ a.separator = separator := by
  unfold assignmentKeyAndSeparator at h
  dsimp only at h
  split at h
  · nomatch h
  · obtain ⟨found, hfound, h⟩ := Option.bind_eq_some_iff.mp h
    split at h
    · nomatch h
    · obtain ⟨rfl, rfl⟩ := Prod.mk.inj (Option.some.inj h)
      have hsplit : ∃ d rest, line = line.take found ++ d :: rest ∧ d ∈ ['=', ':'] ∧ (d = ':' → '=' ∉ rest) ∧
          (line.take found).length = found := by
        cases hequals : line.findIdx? (· == '=') with
        | some index =>
          rw [hequals, Option.some_or, Option.some.injEq] at hfound
          subst hfound
          obtain ⟨d, rest, hline, hd, hlength⟩ := findIdx?_split hequals
          obtain rfl := eq_of_beq hd
          exact ⟨'=', rest, hline, by decide, fun heq => absurd heq (by decide), hlength⟩
        | none =>
          rw [hequals, Option.none_or] at hfound
          obtain ⟨d, rest, hline, hd, hlength⟩ := findIdx?_split hfound
          obtain rfl := eq_of_beq hd
          refine ⟨':', rest, hline, by decide, fun _ hmem => ?_, hlength⟩
          have hnone := List.findIdx?_eq_none_iff.mp hequals '=' (by rw [hline]; simp [hmem])
          nomatch hnone
      obtain ⟨d, rest, hline, hd, hcolon, hlength⟩ := hsplit
      generalize line.take found = before at *
      subst hline
      refine ⟨⟨before.takeWhile isWhitespace, trim before, (before.dropWhile isWhitespace).rtakeWhile isWhitespace, d, rest⟩,
        ⟨fun c hc => List.mem_takeWhile_imp hc, hname, fun c hc => List.mem_rtakeWhile_imp hc, hd, hcolon⟩, ?_, rfl, ?_⟩
      · show before.takeWhile isWhitespace ++ (trim before ++ (before.dropWhile isWhitespace).rtakeWhile isWhitespace ++
          d :: rest) = before ++ d :: rest
        rw [trim, List.rdropWhile_append_rtakeWhile, ← List.append_assoc, List.takeWhile_append_dropWhile]
      · show (before.takeWhile isWhitespace ++ trim before ++
          (before.dropWhile isWhitespace).rtakeWhile isWhitespace).length = found
        rw [trim, List.append_assoc, List.rdropWhile_append_rtakeWhile, List.takeWhile_append_dropWhile, hlength]

theorem findIdx?_separator {before : List Char} {d : Char} (hbefore : d ∉ before) (rest : List Char) :
    (before ++ d :: rest).findIdx? (· == d) = some before.length := by
  have hnone : before.findIdx? (· == d) = none := by
    rw [List.findIdx?_eq_none_iff]
    intro c hc
    simp only [beq_eq_false_iff_ne]
    rintro rfl
    exact hbefore hc
  rw [List.findIdx?_append, hnone, Option.none_or, List.findIdx?_cons, if_pos (beq_self_eq_true d), Option.map_some,
    Nat.zero_add]

theorem trim_blank {indent key gap : List Char} (hindent : ∀ c ∈ indent, isWhitespace c = true)
    (hname : NameText (String.ofList key)) (hgap : ∀ c ∈ gap, isWhitespace c = true) : trim (indent ++ key ++ gap) = key := by
  obtain ⟨c, cs, hkey, hspace, -⟩ := hname.first_char
  rw [String.toList_ofList] at hkey
  rw [trim, List.append_assoc, List.dropWhile_append_of_pos hindent, hkey, List.cons_append,
    List.dropWhile_cons_of_neg (by simp [not_isWhitespace hspace]), List.rdropWhile, ← List.cons_append, ← hkey,
    List.reverse_append, List.dropWhile_append_of_pos fun d hd => hgap d (List.mem_reverse.mp hd), ← List.rdropWhile,
    List.rdropWhile_eq_self_iff]
  intro hne
  have hlast := hname.trimmed.2 (key.getLast hne) (by rw [String.toList_ofList, List.getLast?_eq_some_getLast hne]; rfl)
  rw [not_isWhitespace (Bool.eq_false_iff.mpr hlast)]
  exact Bool.false_ne_true

/-- What stands in front of the separator has no delimiter. -/
theorem Assignment.WellFormed.undelimited {a : Assignment} (h : a.WellFormed) :
    ∀ c ∈ a.indent ++ a.key ++ a.gap, c ≠ '=' ∧ c ≠ ':' := by
  have hblank : ∀ c, isWhitespace c = true → c ≠ '=' ∧ c ≠ ':' := by
    intro c hc
    constructor <;> rintro rfl <;> exact absurd hc (by decide)
  intro c hc
  rcases List.mem_append.mp hc with hc | hc
  · rcases List.mem_append.mp hc with hc | hc
    · exact hblank c (h.indent c hc)
    · exact h.name.delimiters c (by rwa [String.toList_ofList])
  · exact hblank c (h.gap c hc)

theorem line_eq_append (a : Assignment) : a.line = a.indent ++ a.key ++ a.gap ++ a.delimiter :: a.rest := by
  simp [Assignment.line]

/-- The first character of the key comes first in the line. -/
theorem Assignment.WellFormed.dropWhile {a : Assignment} (h : a.WellFormed) :
    ∃ c rest, a.line.dropWhile isWhitespace = c :: rest ∧ isWhitespace c = false ∧ c ∉ ['[', '#', ';'] := by
  obtain ⟨c, cs, hkey, hspace, hfirst⟩ := h.name.first_char
  rw [String.toList_ofList] at hkey
  have hc : isWhitespace c = false := not_isWhitespace hspace
  have hdrop : a.line.dropWhile isWhitespace = c :: (cs ++ a.gap ++ a.delimiter :: a.rest) := by
    rw [Assignment.line, List.dropWhile_append_of_pos h.indent, hkey]
    exact List.dropWhile_cons_of_neg (by simp [hc])
  exact ⟨c, _, hdrop, hc, hfirst⟩

theorem some_of_assignment {a : Assignment} (h : a.WellFormed) :
    assignmentKeyAndSeparator a.line = some (a.key, a.separator) := by
  obtain ⟨c, rest, hdrop, -, hfirst⟩ := h.dropWhile
  have hbefore := h.undelimited
  have hfound : (a.line.findIdx? (· == '=')).or (a.line.findIdx? (· == ':')) = some a.separator := by
    rw [line_eq_append]
    have hdelimiter := h.delimiter
    simp only [List.mem_cons, List.not_mem_nil, or_false] at hdelimiter
    rcases hdelimiter with hdelimiter | hdelimiter
    · rw [hdelimiter, findIdx?_separator fun hmem => (hbefore _ hmem).1 rfl]
      rfl
    · have hnone : (a.indent ++ a.key ++ a.gap ++ ':' :: a.rest).findIdx? (· == '=') = none := by
        rw [List.findIdx?_eq_none_iff]
        intro d hd
        simp only [beq_eq_false_iff_ne]
        rintro rfl
        rcases List.mem_append.mp hd with hd | hd
        · exact (hbefore _ hd).1 rfl
        · exact h.colon hdelimiter (List.mem_of_ne_of_mem (by decide) hd)
      rw [hdelimiter, hnone, Option.none_or, findIdx?_separator fun hmem => (hbefore _ hmem).2 rfl]
      rfl
  have htake : a.line.take a.separator = a.indent ++ a.key ++ a.gap := by
    rw [line_eq_append]
    exact List.take_left
  have hne : a.key ≠ [] := by
    intro hempty
    exact h.name.named (by rw [hempty, String.ofList_nil])
  unfold assignmentKeyAndSeparator
  dsimp only
  simp only [List.mem_cons, List.not_mem_nil, or_false, not_or] at hfirst
  rw [hdrop, if_neg (by simp [hfirst]), hfound, Option.bind_some, htake, trim_blank h.indent h.name h.gap, if_neg hne]

/-! ## The editor -/

/-- The editor of the native `upsert_default_values`. -/
def nativeEditor : LineEditor where
  isBreak c := c == '\n'
  ends _ line := isNonDefaultSection line
  assigned values line := (assignmentKeyAndSeparator line).bind fun found =>
    values.find? fun item => eqIgnoreAsciiCase item.1.toList found.1
  rewrite line value :=
    match assignmentKeyAndSeparator line with
    | some (_, separator) =>
      line.take (separator + 1) ++ (line.drop (separator + 1)).takeWhile isWhitespace ++ value.toList
    | none => line

/-- The assignment of a new value: the blanks after the separator are kept. -/
def Assignment.withValue (a : Assignment) (value : String) : Assignment :=
  { a with rest := a.rest.takeWhile isWhitespace ++ value.toList }

variable {optionxform : String → String} {values : List (String × String)} {line : List Char}
  {item : String × String}
  {a : Assignment}

theorem Assignment.WellFormed.withValue (h : a.WellFormed) {value : String} (hvalue : PlainText value) :
    (a.withValue value).WellFormed where
  indent := h.indent
  name := h.name
  gap := h.gap
  delimiter := h.delimiter
  colon _ hmem := by
    rcases List.mem_append.mp hmem with hmem | hmem
    · exact absurd (List.mem_takeWhile_imp hmem) (by decide)
    · exact (hvalue.plain _ hmem).2 rfl

theorem takeWhile_value {value : String} (hvalue : PlainText value) : value.toList.takeWhile isWhitespace = [] := by
  rw [List.takeWhile_eq_nil_iff]
  intro hlt
  exact Bool.eq_false_iff.mp (not_isWhitespace (hvalue.plain _ (List.getElem_mem hlt)).1)

theorem Assignment.withValue_withValue (a : Assignment) {value : String} (hvalue : PlainText value) :
    (a.withValue value).withValue value = a.withValue value := by
  have hblank : ∀ c ∈ a.rest.takeWhile isWhitespace, isWhitespace c = true := fun c hc => List.mem_takeWhile_imp hc
  have hrest : (a.rest.takeWhile isWhitespace ++ value.toList).takeWhile isWhitespace = a.rest.takeWhile isWhitespace := by
    rw [List.takeWhile_append_of_pos hblank, takeWhile_value hvalue, List.append_nil]
  show { a with rest := (a.rest.takeWhile isWhitespace ++ value.toList).takeWhile isWhitespace ++ value.toList } = _
  rw [hrest]
  rfl

theorem assigned_some (hgiven : GivenOptions optionxform values) (h : nativeEditor.assigned values line = some item) :
    ∃ a : Assignment, a.WellFormed ∧ a.line = line ∧ item ∈ values ∧ eqIgnoreAsciiCase item.1.toList a.key = true := by
  obtain ⟨⟨key, separator⟩, hfound, hfind⟩ := Option.bind_eq_some_iff.mp h
  have hitem := List.mem_of_find?_eq_some hfind
  have hcase : eqIgnoreAsciiCase item.1.toList key = true := by simpa using List.find?_some hfind
  obtain ⟨a, ha, hline, rfl, -⟩ := assignment_of_some hfound (nameText_of_eqIgnoreAsciiCase (hgiven.names item hitem) hcase)
  exact ⟨a, ha, hline, hitem, hcase⟩

theorem rewrite_line (h : a.WellFormed) (value : String) : nativeEditor.rewrite a.line value = (a.withValue value).line := by
  have hline : a.line = a.indent ++ a.key ++ a.gap ++ [a.delimiter] ++ a.rest := by
    rw [line_eq_append, List.append_assoc _ [a.delimiter]]
    rfl
  have hlength : a.separator + 1 = (a.indent ++ a.key ++ a.gap ++ [a.delimiter]).length := by
    rw [List.length_append]
    rfl
  have hrewrite : nativeEditor.rewrite a.line value = a.line.take (a.separator + 1) ++
      (a.line.drop (a.separator + 1)).takeWhile isWhitespace ++ value.toList := by
    simp [nativeEditor, some_of_assignment h]
  rw [hrewrite, hline, hlength, List.take_left, List.drop_left, line_eq_append, Assignment.withValue]
  simp

theorem isNonDefaultSection_line (h : a.WellFormed) : isNonDefaultSection a.line = false := by
  obtain ⟨c, rest, hdrop, hc, hfirst⟩ := h.dropWhile
  have htrim : trim a.line = c :: rest.rdropWhile isWhitespace := by
    rw [trim, hdrop]
    exact rdropWhile_append_cons hc [] rest
  have hne : c ≠ '[' := fun heq => hfirst (by simp [heq])
  unfold isNonDefaultSection
  dsimp only
  rw [htrim, List.head?_cons]
  simp [hne]

/-- The parts of an inserted line. -/
def insertedAssignment (item : String × String) : Assignment := ⟨[], item.1.toList, [], '=', item.2.toList⟩

theorem line_insertedAssignment (item : String × String) : (insertedAssignment item).line = insertedLine item := by
  simp [insertedAssignment, Assignment.line, insertedLine]

theorem wellFormed_inserted (hname : NameText item.1) : (insertedAssignment item).WellFormed where
  indent := nofun
  name := by
    show NameText (String.ofList item.1.toList)
    rwa [String.ofList_toList]
  gap := nofun
  delimiter := List.mem_cons_self
  colon heq := absurd (show '=' = ':' from heq) (by decide)

theorem isBreak_nativeEditor (h : isLineBoundary c = false) : nativeEditor.isBreak c = false := by
  show (c == '\n') = false
  rw [beq_eq_false_iff_ne]
  rintro rfl
  exact absurd h (by decide)

/-- Names in different cases are the same option. -/
theorem lower_eq_iff (a b : String) : eqIgnoreAsciiCase a.toList b.toList = true ↔ lower a = lower b := by
  rw [eqIgnoreAsciiCase, decide_eq_true_iff, lower, lower, String.ofList_inj]

section Lawful

variable (hlower : ∀ a b : String, lower a = lower b → optionxform a = optionxform b)
  (hgiven : GivenOptions optionxform values)

include hlower hgiven

theorem assigned_line (ha : a.WellFormed) (hitem : item ∈ values) (hkey : eqIgnoreAsciiCase item.1.toList a.key = true) :
    nativeEditor.assigned values a.line = some item := by
  show (assignmentKeyAndSeparator a.line).bind _ = some item
  rw [some_of_assignment ha, Option.bind_some]
  refine hgiven.find_eq hitem hkey fun other hother => hlower _ _ ((lower_eq_iff _ _).mp ?_)
  have hkey : item.1.toList.map Char.toLower = a.key.map Char.toLower := of_decide_eq_true hkey
  have hother : other.1.toList.map Char.toLower = a.key.map Char.toLower := of_decide_eq_true hother
  exact decide_eq_true (hother.trans hkey.symm)

omit hlower in
theorem rewrites_nativeEditor (h : nativeEditor.assigned values line = some item) :
    Rewrites item.2 line (nativeEditor.rewrite line item.2) := by
  obtain ⟨a, ha, rfl, hitem, hkey⟩ := assigned_some hgiven h
  have hline : ∀ b : Assignment, b.line = assignmentText b.indent (String.ofList b.key) b.gap b.delimiter b.rest := by
    intro b
    rw [assignmentText, String.toList_ofList, Assignment.line]
  have hrest : (a.withValue item.2).rest = a.rest.takeWhile isWhitespace ++ item.2.toList ++ [] := (List.append_nil _).symm
  rw [rewrite_line ha, hline, hline, hrest]
  refine .mk (fun c hc => isSpace_of_isWhitespace (ha.indent c hc)) (fun c hc => isSpace_of_isWhitespace (ha.gap c hc)) ha.name
    ha.delimiter (fun c hc => isSpace_of_isWhitespace (List.mem_takeWhile_imp hc)) (List.forall_mem_nil _) fun c hc => ?_
  rw [List.append_nil] at hc
  exact (List.takeWhile_prefix _).subset hc

/-- The editor rewrites the lines of given options as it has to. -/
theorem lawful_nativeEditor : nativeEditor.Lawful values where
  newline := rfl
  mem h := by
    obtain ⟨-, -, -, hitem, -⟩ := assigned_some hgiven h
    exact hitem
  rewrites h := rewrites_nativeEditor hgiven h
  oneLine {line item} h hline := by
    obtain ⟨a, ha, rfl, hitem, -⟩ := assigned_some hgiven h
    have hvalue := hgiven.plain item hitem
    refine ⟨fun c hc => ?_, fun hlast => ?_⟩
    · rcases (rewrites_nativeEditor hgiven h).mem c hc with hc | hc
      · exact hline.1 c hc
      · exact isBreak_nativeEditor (hvalue.unbroken c hc)
    · obtain ⟨cs, c, hvalueEnd⟩ : ∃ cs c, item.2.toList = cs ++ [c] :=
        ⟨_, _, (List.dropLast_append_getLast fun hnil => hvalue.nonempty (String.toList_eq_nil_iff.mp hnil)).symm⟩
      have hend : (a.withValue item.2).line = a.indent ++ a.key ++ a.gap ++ a.delimiter ::
          (a.rest.takeWhile isWhitespace ++ cs) ++ [c] := by simp [line_eq_append, Assignment.withValue, hvalueEnd]
      rw [rewrite_line ha, hend, List.getLast?_concat] at hlast
      obtain rfl := Option.some.inj hlast
      exact absurd (hvalue.unbroken '\r' (by rw [hvalueEnd]; simp)) (by decide)
  inside {line item} h first := by
    obtain ⟨a, ha, rfl, hitem, -⟩ := assigned_some hgiven h
    rw [rewrite_line ha]
    exact isNonDefaultSection_line (ha.withValue (hgiven.plain item hitem))
  again {line item} h := by
    obtain ⟨a, ha, rfl, hitem, hkey⟩ := assigned_some hgiven h
    have hvalue := hgiven.plain item hitem
    have hnew := ha.withValue hvalue
    rw [rewrite_line ha, rewrite_line hnew, Assignment.withValue_withValue a hvalue]
    exact ⟨assigned_line hlower hgiven hnew hitem hkey, rfl⟩
  inserted item hitem := by
    have ha := wellFormed_inserted (hgiven.names item hitem)
    have hvalue := hgiven.plain item hitem
    have hkey : eqIgnoreAsciiCase item.1.toList (insertedAssignment item).key = true := decide_eq_true rfl
    refine ⟨⟨fun c hc => ?_, fun hlast => ?_⟩, fun first => ?_, ?_, ?_⟩
    · exact isBreak_nativeEditor (hgiven.insertedLine hitem c hc)
    · exact absurd (hgiven.insertedLine hitem _ (List.mem_of_getLast? hlast)) (by decide)
    · rw [← line_insertedAssignment]
      exact isNonDefaultSection_line ha
    · rw [← line_insertedAssignment]
      exact assigned_line hlower hgiven ha hitem hkey
    · rw [← line_insertedAssignment, rewrite_line ha, Assignment.withValue]
      show Assignment.line { insertedAssignment item with rest := item.2.toList.takeWhile isWhitespace ++ item.2.toList } = _
      rw [takeWhile_value hvalue]
      rfl

end Lawful

/-! ## The update is the edit -/

theorem find?_zipIdx (values : List (String × String)) (p : String × String → Bool) :
    (values.zipIdx.find? fun found => p found.1).map Prod.fst = values.find? p := by
  conv_rhs => rw [← List.zipIdx_map_fst 0 values, List.find?_map]
  rfl

/-- The option that a line assigns to, with its index. -/
def assignedIndex (values : List (String × String)) (line : List Char) : Option ((String × String) × Nat) :=
  (assignmentKeyAndSeparator line).bind fun found =>
    values.zipIdx.find? fun item => eqIgnoreAsciiCase item.1.1.toList found.1

theorem assignedIndex_map (values : List (String × String)) (line : List Char) :
    (assignedIndex values line).map Prod.fst = nativeEditor.assigned values line := by
  rw [assignedIndex, Option.map_bind]
  show _ = (assignmentKeyAndSeparator line).bind _
  refine congrArg _ (funext fun found => ?_)
  exact find?_zipIdx values fun item => eqIgnoreAsciiCase item.1.toList found.1

theorem mem_of_assignedIndex {values : List (String × String)} {line : List Char} {found : (String × String) × Nat}
    (h : assignedIndex values line = some found) : values[found.2]? = some found.1 := by
  obtain ⟨_, _, hfind⟩ := Option.bind_eq_some_iff.mp h
  exact List.mem_zipIdx_iff_getElem?.mp (List.mem_of_find?_eq_some hfind)

theorem updatedLine_eq (values : List (String × String)) (line : List Char) :
    updatedLine values line = (nativeEditor.edit values line, (assignedIndex values line).map Prod.snd) := by
  rw [LineEditor.edit, ← assignedIndex_map]
  unfold updatedLine assignedIndex
  cases hfound : assignmentKeyAndSeparator line with
  | none => rfl
  | some found =>
    obtain ⟨key, separator⟩ := found
    rw [Option.bind_some]
    dsimp only
    cases values.zipIdx.find? fun item => eqIgnoreAsciiCase item.1.1.toList key with
    | none => rfl
    | some other =>
      have hrewrite : nativeEditor.rewrite line other.1.2 = line.take (separator + 1) ++
          (line.drop (separator + 1)).takeWhile isWhitespace ++ other.1.2.toList := by simp [nativeEditor, hfound]
      rw [Option.map_some, Option.map_some]
      dsimp only
      rw [hrewrite]

/-- The values that are missing are those whose indexes were not seen. -/
theorem missing_eq (hgiven : GivenOptions optionxform values) (before : List (List Char)) :
    (values.zipIdx.filter fun item => item.2 ∉ (before.map (updatedLine values)).filterMap Prod.snd).map
      (fun item => item.1.1.toList ++ '=' :: item.1.2.toList) = (nativeEditor.missing values before).map insertedLine := by
  have hseen : ∀ item ∈ values.zipIdx, decide (item.2 ∉ (before.map (updatedLine values)).filterMap Prod.snd) =
      decide (∀ line ∈ before, nativeEditor.assigned values line ≠ some item.1) := by
    rintro ⟨item, index⟩ hitem
    have hindex := List.mem_zipIdx_iff_getElem?.mp hitem
    refine decide_eq_decide.mpr ⟨fun hunseen line hline hassigned => hunseen ?_, fun hunassigned hmem => ?_⟩
    · rw [← assignedIndex_map] at hassigned
      obtain ⟨found, hfound, rfl⟩ := Option.map_eq_some_iff.mp hassigned
      have hother := mem_of_assignedIndex hfound
      have hlt := (List.getElem?_eq_some_iff.mp hindex).1
      obtain rfl : index = found.2 := (List.getElem?_inj hlt hgiven.distinct.of_map).mp (hindex.trans hother.symm)
      refine List.mem_filterMap.mpr ⟨_, List.mem_map_of_mem hline, ?_⟩
      rw [updatedLine_eq, hfound]
      rfl
    · obtain ⟨_, hupdated, hsnd⟩ := List.mem_filterMap.mp hmem
      obtain ⟨line, hline, rfl⟩ := List.mem_map.mp hupdated
      rw [updatedLine_eq] at hsnd
      obtain ⟨found, hfound, rfl⟩ := Option.map_eq_some_iff.mp hsnd
      have hsame : found.1 = item := Option.some.inj ((mem_of_assignedIndex hfound).symm.trans hindex)
      refine hunassigned line hline ?_
      rw [← assignedIndex_map, hfound, ← hsame]
      rfl
  rw [List.filter_congr hseen, LineEditor.missing]
  conv_rhs => rw [← List.zipIdx_map_fst 0 values, List.filter_map, List.map_map]
  rw [List.zipIdx_map_fst]
  rfl

/-- Lines of which one has a character are put together to a text. -/
theorem intercalate_ne_nil {lines : List (List Char)} {line : List Char} (hline : line ∈ lines) (hne : line ≠ []) :
    ['\n'].intercalate lines ≠ [] := by
  intro hnil
  obtain ⟨before, after, rfl⟩ := List.append_of_mem hline
  obtain ⟨first, rest, hsplit⟩ := List.exists_cons_of_ne_nil (List.append_ne_nil_of_right_ne_nil before
    (List.cons_ne_nil line after))
  have hjoined := intercalate_newline first rest
  rw [← hsplit, hnil] at hjoined
  have hlength := congrArg List.length hjoined
  have hpos := List.length_pos_iff.mpr hne
  simp only [joinedLines, List.flatMap_append, List.flatMap_cons, List.length_append, List.length_nil, List.length_cons] at hlength
  omega

/-- The update of the native helper is the one of its editor. -/
theorem upsertDefaultValues_eq (hlower : ∀ a b : String, lower a = lower b → optionxform a = optionxform b)
    (hgiven : GivenOptions optionxform values) (text : List Char) :
    upsertDefaultValues values text = nativeEditor.upsert values text := by
  obtain ⟨line, hline, hne⟩ := LineEditor.exists_editedLine (lawful_nativeEditor hlower hgiven) hgiven.nonempty
    (nativeEditor.lines text)
  have hbound : ∀ lines : List (List Char), (firstNonDefaultSection lines).getD lines.length = nativeEditor.bound lines := by
    intro lines
    rw [firstNonDefaultSection, ← List.findIdx_eq_getD_findIdx?]
    cases lines with
    | nil => rfl
    | cons first rest =>
      rw [List.findIdx_cons, LineEditor.bound]
      show _ = if isNonDefaultSection first then 0 else 1 + rest.findIdx isNonDefaultSection
      cases isNonDefaultSection first with
      | true => rfl
      | false => exact Nat.add_comm _ _
  have hupdated : ∀ before : List (List Char), (before.map (updatedLine values)).map Prod.fst =
      before.map (nativeEditor.edit values) := by
    intro before
    rw [List.map_map]
    exact List.map_congr_left fun line _ => congrArg Prod.fst (updatedLine_eq values line)
  unfold upsertDefaultValues
  dsimp only
  rw [hbound, hupdated, missing_eq hgiven]
  have hedited : ((nativeLines text).take (nativeEditor.bound (nativeLines text))).map (nativeEditor.edit values) ++
      (nativeEditor.missing values ((nativeLines text).take (nativeEditor.bound (nativeLines text)))).map insertedLine ++
        (nativeLines text).drop (nativeEditor.bound (nativeLines text)) =
      nativeEditor.editedLines values (nativeEditor.lines text) := rfl
  rw [hedited, if_pos (.inr (intercalate_ne_nil hline hne)), LineEditor.upsert]
  obtain ⟨first, rest, hsplit⟩ := List.exists_cons_of_ne_nil (List.ne_nil_of_mem hline)
  rw [hsplit]
  exact intercalate_newline first rest

/-! ## Both updates -/

/-- An update keeps the configuration where its editor reads the text as the parser does. -/
theorem capacity_update_keeps {optionxform : String → String}
    (hlower : ∀ a b : String, lower a = lower b → optionxform a = optionxform b) {values : Dict String String}
    (hgiven : GivenOptions optionxform values.entries) {text : List Char} {c : ConfigParser}
    (hread : readTextAs optionxform text = .ok c) :
    (Inputs.capacityEditor.ReadsAlike optionxform values.entries text c →
      LineEditor.Keeps optionxform values.entries (Inputs.upsertDefaultValues values) text c) ∧
    (nativeEditor.ReadsAlike optionxform values.entries text c →
      LineEditor.Keeps optionxform values.entries (upsertDefaultValues values.entries) text c) := by
  constructor
  · intro h
    rw [show Inputs.upsertDefaultValues values = Inputs.capacityEditor.upsert values.entries from
      funext (Inputs.upsertDefaultValues_eq hgiven)]
    exact LineEditor.keeps (Inputs.lawful_capacityEditor hgiven) hgiven hread h
  · intro h
    rw [show upsertDefaultValues values.entries = nativeEditor.upsert values.entries from
      funext (upsertDefaultValues_eq hlower hgiven)]
    exact LineEditor.keeps (lawful_nativeEditor hlower hgiven) hgiven hread h

/-- One option has a line of its own and the other is inserted in front of the next section. -/
theorem capacity_update_keeps_pack :
    let values := Dict.ofList [("AutoBatteryCapacityEstimatedAh", "200"), ("AutoBatteryCapacityEstimatedWh", "10240")]
    let text := "[DEFAULT]\n# pack\nAutoBatteryCapacityEstimatedAh = 100\n\n[Backends]\nMode=split\n".toList
    let c : ConfigParser := {
      defaults := Dict.ofList [("autobatterycapacityestimatedah", "100")]
      sections := Dict.ofList [("Backends", Dict.ofList [("mode", "split")])] }
    LineEditor.Keeps lower values.entries (Inputs.upsertDefaultValues values) text c ∧
      LineEditor.Keeps lower values.entries (upsertDefaultValues values.entries) text c := by
  intro values text c
  have hgiven : GivenOptions lower values.entries := by decide +kernel
  have hread : readTextAs lower text = .ok c := by decide +kernel
  obtain ⟨hpython, hnative⟩ := capacity_update_keeps (fun _ _ h => h) hgiven hread
  exact ⟨hpython (by decide +kernel), hnative (by decide +kernel)⟩

/-- A header after a comment or a key in another case makes the one text unreadable, a file without the default section
both. -/
theorem capacity_update_unreadable :
    let values := Dict.ofList [("AutoBatteryCapacityEstimatedAh", "200")]
    let commented := "# comment\n[DEFAULT]\nDeviceInstance=60\n".toList
    let lowered := "[DEFAULT]\nautobatterycapacityestimatedah=100\n".toList
    let sectioned := "[Backends]\nMode=split\n".toList
    (∀ text ∈ [commented, lowered, sectioned], (readTextAs lower text).toOption.isSome) ∧
      readTextAs lower (Inputs.upsertDefaultValues values commented) = .error .missingSectionHeader ∧
      readTextAs lower (Inputs.upsertDefaultValues values lowered) = .error .duplicateOption ∧
      readTextAs lower (Inputs.upsertDefaultValues values sectioned) = .error .missingSectionHeader ∧
      readTextAs lower (upsertDefaultValues values.entries sectioned) = .error .missingSectionHeader := by
  decide +kernel

end VenusEvcharger.AutoInputHelper
