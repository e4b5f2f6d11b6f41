import VenusEvcharger.Python.ConfigUpsert

/-!
# Editors of configuration lines

An editor with its own notion of lines, section headers and assignments replaces the values of some options in the lines
before the first section header that it sees, and inserts the options it has not found there. `LineEditor.keeps`: where it
sees the lines as the parser reads them, the configuration keeps everything else, and editing twice changes nothing more.
-/

namespace VenusEvcharger

open Library

/-! ## Stripping -/

theorem rdropWhile_append_cons {α : Type*} {p : α → Bool} {c : α} (hc : p c = false) (before rest : List α) :
    (before ++ c :: rest).rdropWhile p = before ++ c :: rest.rdropWhile p := by
  rw [List.rdropWhile, List.reverse_append, List.reverse_cons, List.append_assoc, List.dropWhile_append]
  split
  · rename_i hempty
    rw [List.rdropWhile, List.isEmpty_iff.mp hempty, List.singleton_append, List.dropWhile_cons_of_neg (by simp [hc])]
    simp
  · rw [List.rdropWhile]
    simp

/-- Blanks after a text are stripped. -/
theorem strip_append_blank (cs : List Char) {after : List Char} (hafter : ∀ c ∈ after, isSpace c = true) :
    strip (String.ofList (cs ++ after)) = strip (String.ofList cs) := by
  apply String.toList_injective
  rw [toList_strip, toList_strip, String.toList_ofList, String.toList_ofList, List.dropWhile_append]
  split
  · rename_i hempty
    rw [List.isEmpty_iff.mp hempty, List.dropWhile_eq_nil_iff.mpr hafter]
  · rw [List.rdropWhile, List.reverse_append,
      List.dropWhile_append_of_pos fun c hc => hafter c (List.mem_reverse.mp hc), ← List.rdropWhile]

namespace ConfigParser

open Reading

/-! ## Assignments -/

/-- The text can stand as an option name at the start of a line. -/
structure NameText (name : String) : Prop where
  trimmed : Trimmed name
  named : name ≠ ""
  delimiters : ∀ c ∈ name.toList, c ≠ '=' ∧ c ≠ ':'
  first : ∀ c ∈ name.toList.head?, c ∉ ['[', '#', ';']

instance (name : String) : Decidable (NameText name) :=
  decidable_of_iff (Trimmed name ∧ name ≠ "" ∧ (∀ c ∈ name.toList, c ≠ '=' ∧ c ≠ ':') ∧
      ∀ c ∈ name.toList.head?, c ∉ ['[', '#', ';'])
    ⟨fun ⟨htrimmed, hnamed, hdelimiters, hfirst⟩ => ⟨htrimmed, hnamed, hdelimiters, hfirst⟩,
      fun h => ⟨h.trimmed, h.named, h.delimiters, h.first⟩⟩

/-- A line that assigns to an option. -/
def assignmentText (indent : List Char) (name : String) (gap : List Char) (delimiter : Char) (rest : List Char) : List Char :=
  indent ++ (name.toList ++ gap ++ delimiter :: rest)

theorem NameText.first_char {name : String} (h : NameText name) :
    ∃ c cs, name.toList = c :: cs ∧ isSpace c = false ∧ c ∉ ['[', '#', ';'] := by
  obtain ⟨c, cs, hcs⟩ := List.exists_cons_of_ne_nil fun hnil => h.named (String.toList_eq_nil_iff.mp hnil)
  have hhead : c ∈ name.toList.head? := by rw [hcs]; rfl
  exact ⟨c, cs, hcs, Bool.eq_false_iff.mpr (h.trimmed.1 c hhead), h.first c hhead⟩

theorem takeWhile_assignmentText {indent : List Char} (hindent : ∀ c ∈ indent, isSpace c = true) {name : String}
    (hname : NameText name) (gap : List Char) (delimiter : Char) (rest : List Char) :
    (assignmentText indent name gap delimiter rest).takeWhile isSpace = indent := by
  obtain ⟨c, cs, hcs, hspace, -⟩ := hname.first_char
  rw [assignmentText, List.takeWhile_append_of_pos hindent, hcs, List.cons_append, List.cons_append,
    List.takeWhile_cons_of_neg (by simp [hspace]), List.append_nil]

theorem optionLine_assignmentText {indent gap : List Char} (hindent : ∀ c ∈ indent, isSpace c = true)
    (hgap : ∀ c ∈ gap, isSpace c = true) {name : String} (hname : NameText name) {delimiter : Char}
    (hdelimiter : delimiter ∈ ['=', ':']) (rest : List Char) :
    OptionLine (assignmentText indent name gap delimiter rest) name (strip (String.ofList rest)) := by
  obtain ⟨c, cs, hcs, hspace, hfirst⟩ := hname.first_char
  have hdelimiterSpace : isSpace delimiter = false := by
    have hdelimiters : ∀ d ∈ ['=', ':'], isSpace d = false := by decide
    exact hdelimiters delimiter hdelimiter
  have hstrip : (strip (String.ofList (assignmentText indent name gap delimiter rest))).toList =
      name.toList ++ gap ++ delimiter :: rest.rdropWhile isSpace := by
    rw [toList_strip, String.toList_ofList, assignmentText, List.dropWhile_append_of_pos hindent,
      ← rdropWhile_append_cons hdelimiterSpace, hcs, List.cons_append, List.cons_append,
      List.dropWhile_cons_of_neg (by simp [hspace])]
  have hsplit : ∃ tail, (strip (String.ofList (assignmentText indent name gap delimiter rest))).toList = c :: tail := by
    rw [hstrip, hcs]
    exact ⟨_, rfl⟩
  obtain ⟨tail, htail⟩ := hsplit
  obtain ⟨hcomment, hblank⟩ := not_comment htail (fun h => hfirst (by simp [h])) (fun h => hfirst (by simp [h]))
  refine ⟨hcomment, hblank, ?_, ?_⟩
  · rw [htail, sectionHeader]
    intro other hother
    exact hfirst (by simp [(List.cons.inj hother).1])
  · have hbefore : ∀ d ∈ name.toList ++ gap, (d ≠ '=' && d ≠ ':') = true := by
      intro d hd
      rcases List.mem_append.mp hd with hd | hd
      · simpa using hname.delimiters d hd
      · have hd := hgap d hd
        have hne : ∀ e ∈ ['=', ':'], d ≠ e := by
          rintro e he rfl
          have hdelimiters : ∀ e ∈ ['=', ':'], isSpace e = false := by decide
          exact absurd hd (by simp [hdelimiters d he])
        simpa using ⟨hne '=' (by simp), hne ':' (by simp)⟩
    have hstop : ¬(delimiter ≠ '=' && delimiter ≠ ':') = true := by
      simp only [List.mem_cons, List.not_mem_nil, or_false] at hdelimiter
      rcases hdelimiter with rfl | rfl <;> decide
    have hnameText : strip (String.ofList (name.toList ++ gap)) = name := by
      simpa using @strip_padded [] gap name nofun hgap hname.trimmed
    have hrest : strip (String.ofList rest) = strip (String.ofList (rest.rdropWhile isSpace)) := by
      conv_lhs => rw [← List.rdropWhile_append_rtakeWhile (p := isSpace) (l := rest)]
      exact strip_append_blank _ fun d hd => List.mem_rtakeWhile_imp hd
    have hdrop : (delimiter :: rest.rdropWhile isSpace).dropWhile (fun d => d ≠ '=' && d ≠ ':') =
        delimiter :: rest.rdropWhile isSpace := List.dropWhile_cons_of_neg hstop
    have htake : (delimiter :: rest.rdropWhile isSpace).takeWhile (fun d => d ≠ '=' && d ≠ ':') = [] :=
      List.takeWhile_cons_of_neg hstop
    rw [hstrip, optionLine, List.dropWhile_append_of_pos hbefore, List.takeWhile_append_of_pos hbefore, hdrop, htake,
      List.append_nil]
    show some (strip (String.ofList (name.toList ++ gap)), strip (String.ofList (rest.rdropWhile isSpace))) = _
    rw [hnameText, hrest]

/-- `line'` assigns the value to the option of `line`, with the same indentation, name and delimiter. -/
inductive Rewrites (value : String) : List Char → List Char → Prop
  | mk {indent gap rest before after : List Char} {name : String} {delimiter : Char}
      (hindent : ∀ c ∈ indent, isSpace c = true) (hgap : ∀ c ∈ gap, isSpace c = true) (hname : NameText name)
      (hdelimiter : delimiter ∈ ['=', ':']) (hbefore : ∀ c ∈ before, isSpace c = true) (hafter : ∀ c ∈ after, isSpace c = true)
      (hrest : ∀ c ∈ before ++ after, c ∈ rest) :
      Rewrites value (assignmentText indent name gap delimiter rest)
        (assignmentText indent name gap delimiter (before ++ value.toList ++ after))

variable {value : String} {line line' : List Char}

section

variable (h : Rewrites value line line')
include h

theorem Rewrites.option (hvalue : Trimmed value) :
    ∃ name, NameText name ∧ (∃ optval, OptionLine line name optval) ∧ OptionLine line' name value := by
  obtain @⟨indent, gap, rest, before, after, name, delimiter, hindent, hgap, hname, hdelimiter, hbefore, hafter, -⟩ := h
  have hnew := optionLine_assignmentText hindent hgap hname hdelimiter (before ++ value.toList ++ after)
  rw [strip_padded hbefore hafter hvalue] at hnew
  exact ⟨name, hname, ⟨_, optionLine_assignmentText hindent hgap hname hdelimiter rest⟩, hnew⟩

theorem Rewrites.indent : line'.takeWhile isSpace = line.takeWhile isSpace := by
  obtain ⟨hindent, -, hname, -, -, -, -⟩ := h
  rw [takeWhile_assignmentText hindent hname, takeWhile_assignmentText hindent hname]

/-- The new line has no characters but those of the line and of the value. -/
theorem Rewrites.mem : ∀ c ∈ line', c ∈ line ∨ c ∈ value.toList := by
  obtain ⟨-, -, -, -, -, -, hrest⟩ := h
  intro c hc
  simp only [assignmentText, List.mem_append, List.mem_cons] at hc hrest ⊢
  rcases hc with hc | (hc | hc) | hc | (hc | hc) | hc
  · exact .inl (.inl hc)
  · exact .inl (.inr (.inl (.inl hc)))
  · exact .inl (.inr (.inl (.inr hc)))
  · exact .inl (.inr (.inr (.inl hc)))
  · exact .inl (.inr (.inr (.inr (hrest c (.inl hc)))))
  · exact .inr hc
  · exact .inl (.inr (.inr (.inr (hrest c (.inr hc)))))

theorem Rewrites.ne_nil : line' ≠ [] := by
  obtain ⟨-, -, -, -, -, -, -⟩ := h
  simp [assignmentText]

end

/-- The line that is inserted for an option. -/
def insertedLine (item : String × String) : List Char := item.1.toList ++ '=' :: item.2.toList

theorem insertedLine_eq (item : String × String) : insertedLine item = assignmentText [] item.1 [] '=' item.2.toList := by
  simp [insertedLine, assignmentText]

/-! ## Editors -/

/-- An editor of configuration lines. -/
structure LineEditor where
  /-- The character ends a line. -/
  isBreak : Char → Bool
  /-- The line, which is the first one or not, ends the part that is edited. -/
  ends : Bool → List Char → Bool
  /-- Which of the options the line assigns to. -/
  assigned : List (String × String) → List Char → Option (String × String)
  /-- The line with a new value. -/
  rewrite : List Char → String → List Char

namespace LineEditor

variable (e : LineEditor) (values : List (String × String))

/-- The lines that the editor sees. -/
def lines (text : List Char) : List (List Char) := linesBy e.isBreak text

/-- The number of lines that are edited. -/
def bound : List (List Char) → Nat
  | [] => 0
  | first :: rest => if e.ends true first then 0 else 1 + rest.findIdx (e.ends false)

/-- One line that is edited. -/
def edit (line : List Char) : List Char :=
  match e.assigned values line with
  | some item => e.rewrite line item.2
  | none => line

/-- The options that none of the lines assigns to. -/
def missing (before : List (List Char)) : List (String × String) :=
  values.filter fun item => decide (∀ line ∈ before, e.assigned values line ≠ some item)

/-- The lines of the edited text. -/
def editedLines (lines : List (List Char)) : List (List Char) :=
  let before := lines.take (e.bound lines)
  before.map (e.edit values) ++ (e.missing values before).map insertedLine ++ lines.drop (e.bound lines)

/-- The edited text. -/
def upsert (text : List Char) : List Char := joinedLines (e.editedLines values (e.lines text))

/-- What an editor has to do with a line that assigns to an option. -/
structure Lawful : Prop where
  newline : e.isBreak '\n' = true
  mem : ∀ {line item}, e.assigned values line = some item → item ∈ values
  rewrites : ∀ {line item}, e.assigned values line = some item → Rewrites item.2 line (e.rewrite line item.2)
  oneLine : ∀ {line item}, e.assigned values line = some item → OneLine e.isBreak line →
    OneLine e.isBreak (e.rewrite line item.2)
  inside : ∀ {line item}, e.assigned values line = some item → ∀ first, e.ends first (e.rewrite line item.2) = false
  again : ∀ {line item}, e.assigned values line = some item →
    e.assigned values (e.rewrite line item.2) = some item ∧
      e.rewrite (e.rewrite line item.2) item.2 = e.rewrite line item.2
  inserted : ∀ item ∈ values, OneLine e.isBreak (insertedLine item) ∧ (∀ first, e.ends first (insertedLine item) = false) ∧
    e.assigned values (insertedLine item) = some item ∧ e.rewrite (insertedLine item) item.2 = insertedLine item

variable {e values}

section

variable (h : e.Lawful values)
include h

theorem exists_editedLine (hvalues : values ≠ []) (lines : List (List Char)) :
    ∃ line ∈ e.editedLines values lines, line ≠ [] := by
  by_cases hseen : ∃ line ∈ lines.take (e.bound lines), ∃ item, e.assigned values line = some item
  · obtain ⟨line, hline, item, hassigned⟩ := hseen
    refine ⟨e.edit values line,
      List.mem_append_left _ (List.mem_append_left _ (List.mem_map_of_mem hline)), ?_⟩
    rw [edit, hassigned]
    exact Rewrites.ne_nil (h.rewrites hassigned)
  · obtain ⟨item, hitem⟩ := List.exists_mem_of_ne_nil _ hvalues
    have hmissing : item ∈ e.missing values (lines.take (e.bound lines)) := by
      refine List.mem_filter.mpr ⟨hitem, decide_eq_true fun line hline hassigned => ?_⟩
      exact hseen ⟨line, hline, item, hassigned⟩
    refine ⟨insertedLine item, List.mem_append_left _ (List.mem_append_right _ (List.mem_map_of_mem hmissing)), ?_⟩
    simp [insertedLine]

/-! ## Editing twice -/

theorem edit_edit (line : List Char) : e.edit values (e.edit values line) = e.edit values line := by
  cases hassigned : e.assigned values line with
  | none =>
    have hedit : e.edit values line = line := by rw [edit, hassigned]
    rw [hedit, hedit]
  | some item =>
    obtain ⟨hagain, hsame⟩ := h.again hassigned
    have hedit : e.edit values line = e.rewrite line item.2 := by rw [edit, hassigned]
    rw [hedit, edit, hagain]
    exact hsame

theorem edit_insertedLine {item : String × String} (hitem : item ∈ values) :
    e.edit values (insertedLine item) = insertedLine item := by
  obtain ⟨-, -, hassigned, hsame⟩ := h.inserted item hitem
  rw [edit, hassigned]
  exact hsame

theorem assigned_edit {line : List Char} {item : String × String}
    (hassigned : e.assigned values line = some item) : e.assigned values (e.edit values line) = some item := by
  have hedit : e.edit values line = e.rewrite line item.2 := by rw [edit, hassigned]
  rw [hedit]
  exact (h.again hassigned).1

theorem ends_edit {first : Bool} {line : List Char} (hline : e.ends first line = false) :
    e.ends first (e.edit values line) = false := by
  unfold edit
  split
  · rename_i item hassigned
    exact h.inside hassigned first
  · exact hline

theorem oneLine_edit {line : List Char} (hline : OneLine e.isBreak line) :
    OneLine e.isBreak (e.edit values line) := by
  unfold edit
  split
  · rename_i item hassigned
    exact h.oneLine hassigned hline
  · exact hline

end

theorem bound_append {first : List Char} {before after : List (List Char)} (hfirst : e.ends true first = false)
    (hbefore : ∀ line ∈ before, e.ends false line = false) (hafter : ∀ line ∈ after.head?, e.ends false line = true) :
    e.bound (first :: before ++ after) = 1 + before.length := by
  have hfind : (before ++ after).findIdx (e.ends false) = before.length := by
    induction before with
    | nil =>
      cases after with
      | nil => rfl
      | cons line after =>
        rw [List.nil_append, List.findIdx_cons, hafter line rfl]
        rfl
    | cons line before ih =>
      rw [List.cons_append, List.findIdx_cons, hbefore line List.mem_cons_self,
        ih fun other hother => hbefore other (List.mem_cons_of_mem _ hother)]
      rfl
  rw [List.cons_append, bound, hfirst, hfind]
  rfl

/-- The lines, split where the edited part ends, when it has a line. -/
theorem bound_cases {lines : List (List Char)} (h : e.bound lines ≠ 0) :
    ∃ first before, lines.take (e.bound lines) = first :: before ∧ e.ends true first = false ∧
      (∀ line ∈ before, e.ends false line = false) ∧
        ∀ line ∈ (lines.drop (e.bound lines)).head?, e.ends false line = true := by
  cases lines with
  | nil => exact absurd rfl h
  | cons first rest =>
    have hbound : e.bound (first :: rest) = if e.ends true first then 0 else 1 + rest.findIdx (e.ends false) := rfl
    cases hfirst : e.ends true first with
    | true =>
      rw [hbound, hfirst] at h
      exact absurd rfl h
    | false =>
      rw [hbound, hfirst, if_neg Bool.false_ne_true, Nat.add_comm, List.take_succ_cons, List.drop_succ_cons]
      refine ⟨first, _, rfl, hfirst, fun line hline => ?_, fun line hline => ?_⟩
      · obtain ⟨i, hi, rfl⟩ := List.mem_take_iff_getElem.mp hline
        exact List.not_of_lt_findIdx (lt_of_lt_of_le hi (min_le_left _ _))
      · rw [List.head?_drop, Option.mem_def, List.getElem?_eq_some_iff] at hline
        obtain ⟨hlt, rfl⟩ := hline
        exact List.findIdx_getElem

theorem editedLines_editedLines (h : e.Lawful values) {lines : List (List Char)} (hbound : e.bound lines ≠ 0) :
    e.editedLines values (e.editedLines values lines) = e.editedLines values lines := by
  obtain ⟨first, before, htake, hfirst, hbefore, hafter⟩ := bound_cases hbound
  unfold editedLines
  dsimp only
  rw [htake]
  generalize lines.drop (e.bound lines) = after at hafter
  have hmissing : ∀ item ∈ e.missing values (first :: before), item ∈ values := fun item hitem => List.mem_of_mem_filter hitem
  have hends : ∀ line ∈ before.map (e.edit values) ++ (e.missing values (first :: before)).map insertedLine,
      e.ends false line = false := by
    intro line hline
    rcases List.mem_append.mp hline with hline | hline
    · obtain ⟨old, hold, rfl⟩ := List.mem_map.mp hline
      exact ends_edit h (hbefore old hold)
    · obtain ⟨item, hitem, rfl⟩ := List.mem_map.mp hline
      exact (h.inserted item (hmissing item hitem)).2.1 false
  have hshape : (first :: before).map (e.edit values) ++ (e.missing values (first :: before)).map insertedLine ++ after =
      e.edit values first :: (before.map (e.edit values) ++ (e.missing values (first :: before)).map insertedLine) ++
        after := by simp
  have hlength := bound_append (ends_edit h hfirst) hends hafter
  have hkept : ∀ line ∈ (first :: before).map (e.edit values) ++ (e.missing values (first :: before)).map insertedLine,
      e.edit values line = line := by
    intro line hline
    rcases List.mem_append.mp hline with hline | hline
    · obtain ⟨old, -, rfl⟩ := List.mem_map.mp hline
      exact edit_edit h old
    · obtain ⟨item, hitem, rfl⟩ := List.mem_map.mp hline
      exact edit_insertedLine h (hmissing item hitem)
  have hnone : e.missing values
      ((first :: before).map (e.edit values) ++ (e.missing values (first :: before)).map insertedLine) = [] := by
    rw [missing, List.filter_eq_nil_iff]
    intro item hitem
    rw [decide_eq_true_iff]
    intro hall
    by_cases hfound : item ∈ e.missing values (first :: before)
    · exact hall _ (List.mem_append_right _ (List.mem_map_of_mem hfound)) (h.inserted item hitem).2.2.1
    · have hseen : ∃ line ∈ first :: before, e.assigned values line = some item := by
        by_contra hunseen
        refine hfound (List.mem_filter.mpr ⟨hitem, decide_eq_true ?_⟩)
        intro line hline hassigned
        exact hunseen ⟨line, hline, hassigned⟩
      obtain ⟨line, hline, hassigned⟩ := hseen
      exact hall _ (List.mem_append_left _ (List.mem_map_of_mem hline)) (assigned_edit h hassigned)
  have htaken : (e.edit values first :: (before.map (e.edit values) ++
      (e.missing values (first :: before)).map insertedLine) ++ after).take
        (1 + (before.map (e.edit values) ++ (e.missing values (first :: before)).map insertedLine).length) =
      (first :: before).map (e.edit values) ++ (e.missing values (first :: before)).map insertedLine := by
    rw [List.take_append_of_le_length (by simp [Nat.add_comm]), List.take_of_length_le (by simp [Nat.add_comm])]
    rfl
  have hdropped : (e.edit values first :: (before.map (e.edit values) ++
      (e.missing values (first :: before)).map insertedLine) ++ after).drop
        (1 + (before.map (e.edit values) ++ (e.missing values (first :: before)).map insertedLine).length) = after := by
    rw [Nat.add_comm, ← List.length_cons (a := e.edit values first), List.drop_left]
  rw [hshape, hlength, htaken, hdropped, hnone, List.map_nil, List.append_nil, List.map_congr_left hkept, List.map_id']
  rfl

end LineEditor

end ConfigParser

end VenusEvcharger
