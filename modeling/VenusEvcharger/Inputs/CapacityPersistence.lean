import VenusEvcharger.Python.ConfigKept

/-!
# Persisting an estimated capacity

The estimated capacity is written into the configuration file line by line: the assignments to its keys in front of the
first section get new values, and the keys that were not found are inserted there. What is found is decided by two
regular expressions.
-/

namespace VenusEvcharger.Inputs

open Library ConfigParser

/-! ## The regular expressions -/

/-- `_SECTION_RE.match` of a line. -/
def sectionMatch (line : List Char) : Bool :=
  match line.dropWhile isSpace with
  | '[' :: rest =>
    match rest.dropWhile (· ≠ ']') with
    | _ :: after =>
      rest.head? ≠ some ']' &&
        match after.dropWhile isSpace with
        | [] => true
        | c :: _ => c = '#' || c = ';'
    | [] => false
  | _ => false

/-- The groups of `_KEY_VALUE_RE`; the third one is `gap`, the delimiter and `before`. -/
structure KeyValue where
  indent : List Char
  key : List Char
  gap : List Char
  before : List Char
  value : List Char
  after : List Char

/-- `_KEY_VALUE_RE.match` of a line. -/
def keyValueMatch (line : List Char) : Option KeyValue :=
  match line.dropWhile isSpace with
  | [] => none
  | c :: cs =>
    if c ∈ ['#', ';', '='] then none
    else
      match (c :: cs).dropWhile (· ≠ '=') with
      | [] => none
      | _ :: rest =>
        let name := (c :: cs).takeWhile (· ≠ '=')
        let value := rest.dropWhile isSpace
        some {
          indent := line.takeWhile isSpace
          key := name.rdropWhile isSpace
          gap := name.rtakeWhile isSpace
          before := rest.takeWhile isSpace
          value := value.rdropWhile isSpace
          after := value.rtakeWhile isSpace }

/-! ## The update -/

/-- `_default_section_bounds`. -/
def defaultSectionBounds (lines : List (List Char)) : Nat × Nat :=
  let start :=
    match lines with
    | [] => 0
    | first :: _ => if lower (strip (String.ofList first)) = "[default]" then 1 else 0
  (start, start + (lines.drop start).findIdx sectionMatch)

/-- The line with the new value of its key, and the key, when it is one of the given ones. -/
def replacedLine (values : Dict String String) (line : List Char) : Option (List Char × String) :=
  (keyValueMatch line).bind fun m =>
    let key := strip (String.ofList m.key)
    (values.get? key).map fun value =>
      (m.indent ++ key.toList ++ (m.gap ++ '=' :: m.before) ++ value.toList ++ m.after, key)

/-- `_replace_existing_default_values` of the lines in the bounds, with `seen`. -/
def replaceExistingDefaultValues (values : Dict String String) : List (List Char) → List (List Char) × List String
  | [] => ([], [])
  | line :: lines =>
    let (updated, seen) := replaceExistingDefaultValues values lines
    match replacedLine values line with
    | some (line', key) => (line' :: updated, key :: seen)
    | none => (line :: updated, seen)

/-- `_missing_default_value_lines`. -/
def missingDefaultValueLines (values : Dict String String) (seen : List String) : List (List Char) :=
  (values.entries.filter fun item => item.1 ∉ seen).map fun item => item.1.toList ++ '=' :: item.2.toList

/-- `_join_ini_lines`. -/
def joinIniLines (lines : List (List Char)) (originalText : List Char) : List Char :=
  ['\n'].intercalate lines ++ if originalText.getLast? = some '\n' ∨ lines ≠ [] then ['\n'] else []

/-- `_upsert_default_values`. -/
def upsertDefaultValues (values : Dict String String) (text : List Char) : List Char :=
  if values.entries = [] then text
  else
    let lines := linesBy isLineBoundary text
    let (start, stop) := defaultSectionBounds lines
    let (replaced, seen) := replaceExistingDefaultValues values ((lines.take stop).drop start)
    joinIniLines (lines.take start ++ replaced ++ missingDefaultValueLines values seen ++ lines.drop stop) text

/-! ## Matched lines -/

/-- The groups of a match are maximal runs of blanks and what stands between them. -/
structure KeyValue.WellFormed (m : KeyValue) : Prop where
  indent : ∀ c ∈ m.indent, isSpace c = true
  key : ∃ c cs, m.key = c :: cs ∧ isSpace c = false ∧ c ∉ ['#', ';', '=']
  keyEnd : m.key.rdropWhile isSpace = m.key
  delimiter : ∀ c ∈ m.key, c ≠ '='
  gap : ∀ c ∈ m.gap, isSpace c = true
  before : ∀ c ∈ m.before, isSpace c = true
  valueStart : ∀ c ∈ m.value.head?, isSpace c = false
  valueEnd : m.value.rdropWhile isSpace = m.value
  after : ∀ c ∈ m.after, isSpace c = true
  empty : m.value = [] → m.after = []

/-- The matched line. -/
def KeyValue.line (m : KeyValue) : List Char :=
  m.indent ++ (m.key ++ m.gap ++ '=' :: (m.before ++ (m.value ++ m.after)))

variable {text : List Char}

theorem rdropWhile_append_blank {blank : List Char} (hblank : ∀ c ∈ blank, isSpace c = true) :
    (text ++ blank).rdropWhile isSpace = text.rdropWhile isSpace := by
  rw [List.rdropWhile, List.reverse_append, List.dropWhile_append_of_pos fun c hc => hblank c (List.mem_reverse.mp hc),
    ← List.rdropWhile]

theorem rtakeWhile_append_blank {blank : List Char} (htext : text.rdropWhile isSpace = text)
    (hblank : ∀ c ∈ blank, isSpace c = true) : (text ++ blank).rtakeWhile isSpace = blank := by
  have hsplit := List.rdropWhile_append_rtakeWhile (p := isSpace) (l := text ++ blank)
  rw [rdropWhile_append_blank hblank, htext] at hsplit
  exact List.append_cancel_left hsplit

theorem dropWhile_isSpace_head (text : List Char) : ∀ c ∈ (text.dropWhile isSpace).head?, isSpace c = false := by
  intro c hc
  have hnot := List.head?_dropWhile_not isSpace text
  rw [Option.mem_def.mp hc] at hnot
  simpa using hnot

theorem head?_rdropWhile : ∀ c ∈ (text.rdropWhile isSpace).head?, c ∈ text.head? := by
  intro c hc
  obtain ⟨rest, hrest⟩ := List.rdropWhile_prefix isSpace text
  rw [← hrest, List.head?_append]
  simp [Option.mem_def.mp hc]

theorem wellFormed_of_match {line : List Char} {m : KeyValue} (h : keyValueMatch line = some m) :
    m.WellFormed ∧ m.line = line := by
  unfold keyValueMatch at h
  split at h
  · nomatch h
  · rename_i c cs hbody
    split at h
    · nomatch h
    · rename_i hfirst
      split at h
      · nomatch h
      · rename_i d rest hdrop
        obtain rfl := Option.some.inj h
        have hc : isSpace c = false := dropWhile_isSpace_head line c (by rw [hbody]; rfl)
        have hne : c ≠ '=' := fun heq => hfirst (by simp [heq])
        have hd : d = '=' := by
          have hnot := List.head?_dropWhile_not (fun e : Char => decide (e ≠ '=')) (c :: cs)
          rw [hdrop] at hnot
          simpa using hnot
        have hname : (c :: cs).takeWhile (· ≠ '=') = c :: cs.takeWhile (· ≠ '=') :=
          List.takeWhile_cons_of_pos (by simpa using hne)
        refine ⟨⟨fun e he => List.mem_takeWhile_imp he, ?_, List.rdropWhile_idempotent _ _, fun e he => ?_,
          fun e he => List.mem_rtakeWhile_imp he, fun e he => List.mem_takeWhile_imp he, fun e he => ?_,
          List.rdropWhile_idempotent _ _, fun e he => List.mem_rtakeWhile_imp he, fun hempty => ?_⟩, ?_⟩
        · exact ⟨c, _, (congrArg _ hname).trans (rdropWhile_append_cons hc [] _), hc, hfirst⟩
        · have hmem := (List.rdropWhile_prefix isSpace _).subset he
          simpa using List.mem_takeWhile_imp hmem
        · exact dropWhile_isSpace_head _ e (head?_rdropWhile e he)
        · have hall := List.rdropWhile_eq_nil_iff.mp hempty
          cases hvalue : rest.dropWhile isSpace with
          | nil => rfl
          | cons e es =>
            rw [hvalue] at hall
            have hspace := dropWhile_isSpace_head rest e (by rw [hvalue]; rfl)
            exact absurd (hall e List.mem_cons_self) (by simp [hspace])
        · show line.takeWhile isSpace ++ (((c :: cs).takeWhile (· ≠ '=')).rdropWhile isSpace ++
            ((c :: cs).takeWhile (· ≠ '=')).rtakeWhile isSpace ++ '=' :: (rest.takeWhile isSpace ++
              ((rest.dropWhile isSpace).rdropWhile isSpace ++ (rest.dropWhile isSpace).rtakeWhile isSpace))) = line
          subst hd
          rw [List.rdropWhile_append_rtakeWhile, List.rdropWhile_append_rtakeWhile, List.takeWhile_append_dropWhile,
            ← hdrop, List.takeWhile_append_dropWhile, ← hbody, List.takeWhile_append_dropWhile]

theorem dropWhile_key {key : List Char} (hkey : ∀ c ∈ key, c ≠ '=') (rest : List Char) :
    (key ++ '=' :: rest).dropWhile (· ≠ '=') = '=' :: rest ∧ (key ++ '=' :: rest).takeWhile (· ≠ '=') = key := by
  have hpos : ∀ c ∈ key, decide (c ≠ '=') = true := fun c hc => by simpa using hkey c hc
  rw [List.dropWhile_append_of_pos hpos, List.takeWhile_append_of_pos hpos]
  simp

theorem takeWhile_blank {before : List Char} (hbefore : ∀ c ∈ before, isSpace c = true)
    (htext : ∀ c ∈ text.head?, isSpace c = false) :
    (before ++ text).takeWhile isSpace = before ∧ (before ++ text).dropWhile isSpace = text := by
  rw [List.takeWhile_append_of_pos hbefore, List.dropWhile_append_of_pos hbefore]
  cases text with
  | nil => simp
  | cons c text => simp [htext c rfl]

/-- Every line of this shape is matched, by these groups. -/
theorem match_of_wellFormed {m : KeyValue} (h : m.WellFormed) : keyValueMatch m.line = some m := by
  obtain ⟨c, cs, hkey, hc, hfirst⟩ := h.key
  have hname : ∀ d ∈ m.key ++ m.gap, d ≠ '=' := by
    intro d hd
    rcases List.mem_append.mp hd with hd | hd
    · exact h.delimiter d hd
    · rintro rfl
      exact absurd (h.gap _ hd) (by decide)
  have hvalue : ∀ d ∈ (m.value ++ m.after).head?, isSpace d = false := by
    intro d hd
    cases hempty : m.value with
    | nil =>
      rw [hempty, h.empty hempty] at hd
      nomatch hd
    | cons e es =>
      rw [hempty] at hd
      exact h.valueStart d (by rw [hempty]; exact hd)
  have hbody : m.line.takeWhile isSpace = m.indent ∧ m.line.dropWhile isSpace = m.key ++ m.gap ++
      '=' :: (m.before ++ (m.value ++ m.after)) :=
    takeWhile_blank h.indent fun d hd => by
      rw [hkey] at hd
      obtain rfl : c = d := by simpa using hd
      exact hc
  obtain ⟨hdrop, htake⟩ := dropWhile_key hname (m.before ++ (m.value ++ m.after))
  obtain ⟨hbefore, hafter⟩ := takeWhile_blank h.before hvalue
  unfold keyValueMatch
  rw [hbody.1, hbody.2]
  have hcons : m.key ++ m.gap ++ '=' :: (m.before ++ (m.value ++ m.after)) =
      c :: (cs ++ m.gap ++ '=' :: (m.before ++ (m.value ++ m.after))) := by rw [hkey]; rfl
  rw [hcons] at hdrop htake ⊢
  dsimp only
  rw [if_neg hfirst, hdrop]
  dsimp only
  rw [htake, rdropWhile_append_blank h.gap, h.keyEnd, rtakeWhile_append_blank h.keyEnd h.gap, hbefore, hafter,
    rdropWhile_append_blank h.after, h.valueEnd, rtakeWhile_append_blank h.valueEnd h.after]

/-! ## The editor -/

/-- The match with a new value. -/
def KeyValue.withValue (m : KeyValue) (value : String) : KeyValue := { m with value := value.toList }

/-- The first line names the default section. -/
def isDefaultHeader (line : List Char) : Bool := lower (strip (String.ofList line)) = "[default]"

/-- The editor of `_upsert_default_values`. -/
def capacityEditor : LineEditor where
  isBreak := isLineBoundary
  ends first line := !(first && isDefaultHeader line) && sectionMatch line
  assigned values line := (keyValueMatch line).bind fun m => values.find? fun item => item.1 = String.ofList m.key
  rewrite line value :=
    match keyValueMatch line with
    | some m => (m.withValue value).line
    | none => line

variable {optionxform : String → String} {values : List (String × String)} {line : List Char}
  {item : String × String}
  {m : KeyValue}

theorem KeyValue.WellFormed.trimmed (h : m.WellFormed) : strip (String.ofList m.key) = String.ofList m.key := by
  obtain ⟨c, cs, hkey, hc, -⟩ := h.key
  apply String.toList_injective
  rw [toList_strip, String.toList_ofList, hkey, List.dropWhile_cons_of_neg (by simp [hc]), ← hkey, h.keyEnd]

/-- A new value keeps the groups. -/
theorem KeyValue.WellFormed.withValue (h : m.WellFormed) {value : String} (hvalue : PlainText value) :
    (m.withValue value).WellFormed where
  indent := h.indent
  key := h.key
  keyEnd := h.keyEnd
  delimiter := h.delimiter
  gap := h.gap
  before := h.before
  valueStart c hc := (hvalue.plain c (List.mem_of_mem_head? hc)).1
  valueEnd := by
    rw [List.rdropWhile_eq_self_iff]
    intro hne
    rw [(hvalue.plain _ (List.getLast_mem hne)).1]
    exact Bool.false_ne_true
  after := h.after
  empty hempty := absurd (String.toList_eq_nil_iff.mp hempty) hvalue.nonempty

theorem assigned_some (h : capacityEditor.assigned values line = some item) :
    ∃ m : KeyValue, m.WellFormed ∧ m.line = line ∧ item ∈ values ∧ String.ofList m.key = item.1 := by
  obtain ⟨m, hmatch, hfind⟩ := Option.bind_eq_some_iff.mp h
  obtain ⟨hm, hline⟩ := wellFormed_of_match hmatch
  exact ⟨m, hm, hline, List.mem_of_find?_eq_some hfind, (by simpa using List.find?_some hfind : item.1 = _).symm⟩

theorem assigned_line (hgiven : GivenOptions optionxform values) (hm : m.WellFormed) (hitem : item ∈ values)
    (hkey : String.ofList m.key = item.1) : capacityEditor.assigned values m.line = some item := by
  show (keyValueMatch m.line).bind _ = some item
  rw [match_of_wellFormed hm, Option.bind_some, hkey]
  refine hgiven.find_eq hitem (decide_eq_true rfl) fun other hother => ?_
  rw [of_decide_eq_true hother]

theorem rewrite_line (hm : m.WellFormed) (value : String) :
    capacityEditor.rewrite m.line value = (m.withValue value).line := by
  show (match keyValueMatch m.line with | some m => (m.withValue value).line | none => m.line) = _
  rw [match_of_wellFormed hm]

theorem line_eq (m : KeyValue) {name : String} (hkey : String.ofList m.key = name) :
    m.line = assignmentText m.indent name m.gap '=' (m.before ++ m.value ++ m.after) := by
  rw [assignmentText, ← hkey, String.toList_ofList, KeyValue.line, List.append_assoc m.before]

theorem sectionMatch_line (hm : m.WellFormed) {name : String} (hkey : String.ofList m.key = name) (hname : NameText name) :
    sectionMatch m.line = false := by
  obtain ⟨c, cs, hcs, -, hfirst⟩ := hname.first_char
  rw [← hkey, String.toList_ofList] at hcs
  have hdrop : m.line.dropWhile isSpace = c :: (cs ++ m.gap ++ '=' :: (m.before ++ (m.value ++ m.after))) := by
    obtain ⟨d, ds, hds, hd, -⟩ := hm.key
    obtain ⟨rfl, rfl⟩ := List.cons.inj (hcs.symm.trans hds)
    rw [KeyValue.line, List.dropWhile_append_of_pos hm.indent, hcs]
    exact List.dropWhile_cons_of_neg (by simp [hd])
  unfold sectionMatch
  rw [hdrop]
  split
  · rename_i heq
    obtain ⟨rfl, -⟩ := List.cons.inj heq
    exact absurd (by simp) hfirst
  · rfl

/-- The groups of an inserted line. -/
def insertedKeyValue (item : String × String) : KeyValue := ⟨[], item.1.toList, [], [], item.2.toList, []⟩

theorem wellFormed_inserted (hname : NameText item.1) (hvalue : PlainText item.2) : (insertedKeyValue item).WellFormed := by
  obtain ⟨c, cs, hcs, hspace, hfirst⟩ := hname.first_char
  have hblank : ∀ c ∈ ([] : List Char), isSpace c = true := nofun
  have hne : c ≠ '=' := (hname.delimiters c (by rw [hcs]; exact List.mem_cons_self)).1
  have hkey : (KeyValue.mk [] item.1.toList [] [] [] []).WellFormed := {
    indent := hblank
    key := ⟨c, cs, hcs, hspace, by simp_all⟩
    keyEnd := by
      have hstrip := congrArg String.toList (strip_eq_self_iff.mpr hname.trimmed)
      rwa [toList_strip, hcs, List.dropWhile_cons_of_neg (by simp [hspace]), ← hcs] at hstrip
    delimiter := fun d hd => (hname.delimiters d hd).1
    gap := hblank
    before := hblank
    valueStart := nofun
    valueEnd := rfl
    after := hblank
    empty := fun _ => rfl }
  exact hkey.withValue hvalue

theorem line_insertedKeyValue (item : String × String) : (insertedKeyValue item).line = insertedLine item := by
  simp [insertedKeyValue, KeyValue.line, insertedLine]

theorem rewrites_capacityEditor (hgiven : GivenOptions optionxform values)
    (h : capacityEditor.assigned values line = some item) : Rewrites item.2 line (capacityEditor.rewrite line item.2) := by
  obtain ⟨m, hm, rfl, hitem, hkey⟩ := assigned_some h
  rw [rewrite_line hm, line_eq m hkey, line_eq (m.withValue item.2) hkey]
  refine .mk hm.indent hm.gap (hgiven.names item hitem) (by decide) hm.before hm.after fun c hc => ?_
  rw [List.append_assoc, List.mem_append, List.mem_append]
  rcases List.mem_append.mp hc with hc | hc
  · exact .inl hc
  · exact .inr (.inr hc)

theorem lawful_capacityEditor (hgiven : GivenOptions optionxform values) : capacityEditor.Lawful values where
  newline := rfl
  mem h := by
    obtain ⟨-, -, -, hitem, -⟩ := assigned_some h
    exact hitem
  rewrites h := rewrites_capacityEditor hgiven h
  oneLine {line item} h hline := by
    obtain ⟨m, -, -, hitem, -⟩ := assigned_some h
    have hchars : ∀ c ∈ capacityEditor.rewrite line item.2, isLineBoundary c = false := by
      intro c hc
      rcases (rewrites_capacityEditor hgiven h).mem c hc with hc | hc
      · exact hline.1 c hc
      · exact (hgiven.plain item hitem).unbroken c hc
    exact ⟨hchars, fun hlast => absurd (hchars _ (List.mem_of_getLast? hlast)) (by decide)⟩
  inside {line item} h first := by
    obtain ⟨m, hm, rfl, hitem, hkey⟩ := assigned_some h
    rw [rewrite_line hm]
    show (_ && sectionMatch _) = false
    rw [sectionMatch_line (hm.withValue (hgiven.plain item hitem)) hkey (hgiven.names item hitem), Bool.and_false]
  again {line item} h := by
    obtain ⟨m, hm, rfl, hitem, hkey⟩ := assigned_some h
    have hnew := hm.withValue (hgiven.plain item hitem)
    rw [rewrite_line hm, rewrite_line hnew]
    exact ⟨assigned_line hgiven hnew hitem hkey, rfl⟩
  inserted item hitem := by
    have hm := wellFormed_inserted (hgiven.names item hitem) (hgiven.plain item hitem)
    have hkey : String.ofList (insertedKeyValue item).key = item.1 := String.ofList_toList
    refine ⟨⟨hgiven.insertedLine hitem, fun hlast => ?_⟩, fun first => ?_, ?_, ?_⟩
    · exact absurd (hgiven.insertedLine hitem _ (List.mem_of_getLast? hlast)) (by decide)
    · show (_ && sectionMatch _) = false
      rw [← line_insertedKeyValue, sectionMatch_line hm hkey (hgiven.names item hitem), Bool.and_false]
    · rw [← line_insertedKeyValue]
      exact assigned_line hgiven hm hitem hkey
    · rw [← line_insertedKeyValue, rewrite_line hm]
      rfl

/-! ## The update is the edit -/

section Update

variable (values : Dict String String)

theorem replacedLine_eq (line : List Char) : replacedLine values line =
    (capacityEditor.assigned values.entries line).map fun item => (capacityEditor.rewrite line item.2, item.1) := by
  cases hmatch : keyValueMatch line with
  | none => simp [replacedLine, capacityEditor, hmatch]
  | some m =>
    obtain ⟨hm, rfl⟩ := wellFormed_of_match hmatch
    have hassigned : capacityEditor.assigned values.entries m.line =
        values.entries.find? fun item => item.1 = String.ofList m.key := by simp [capacityEditor, hmatch]
    rw [replacedLine, hmatch, Option.bind_some, hassigned, hm.trimmed]
    dsimp only
    rw [Dict.get?_eq_find?, Option.map_map]
    cases hfind : values.entries.find? fun item => item.1 = String.ofList m.key with
    | none => rfl
    | some item =>
      have hkey : item.1 = String.ofList m.key := by simpa using List.find?_some hfind
      rw [Option.map_some, Option.map_some, rewrite_line hm, hkey]
      simp [KeyValue.line, KeyValue.withValue]

theorem replaceExistingDefaultValues_fst (lines : List (List Char)) :
    (replaceExistingDefaultValues values lines).1 = lines.map (capacityEditor.edit values.entries) := by
  induction lines with
  | nil => rfl
  | cons line lines ih =>
    rw [replaceExistingDefaultValues, List.map_cons, ← ih, LineEditor.edit]
    dsimp only
    rw [replacedLine_eq]
    cases capacityEditor.assigned values.entries line <;> rfl

theorem mem_seen {lines : List (List Char)} {key : String} : key ∈ (replaceExistingDefaultValues values lines).2 ↔
    ∃ line ∈ lines, ∃ item, capacityEditor.assigned values.entries line = some item ∧ item.1 = key := by
  induction lines with
  | nil => simp [replaceExistingDefaultValues]
  | cons line lines ih =>
    rw [replaceExistingDefaultValues, List.exists_mem_cons_iff, ← ih]
    dsimp only
    rw [replacedLine_eq]
    cases capacityEditor.assigned values.entries line with
    | none => simp
    | some item => simp [eq_comm]

theorem missingDefaultValueLines_eq {before : List (List Char)} {seen : List String}
    (hseen : ∀ key, key ∈ seen ↔ ∃ line ∈ before, ∃ item,
      capacityEditor.assigned values.entries line = some item ∧ item.1 = key) :
    missingDefaultValueLines values seen = (capacityEditor.missing values.entries before).map insertedLine := by
  refine congrArg (List.map _) (List.filter_congr fun item hitem => decide_eq_decide.mpr ?_)
  rw [hseen]
  constructor
  · intro hunseen line hline hassigned
    exact hunseen ⟨line, hline, item, hassigned, rfl⟩
  · rintro hunassigned ⟨line, hline, other, hassigned, hkey⟩
    obtain ⟨-, -, -, hother, -⟩ := assigned_some hassigned
    obtain rfl : other = item := List.inj_on_of_nodup_map values.nodup hother hitem hkey
    exact hunassigned line hline hassigned

theorem joinIniLines_eq {lines : List (List Char)} (hlines : lines ≠ []) (originalText : List Char) :
    joinIniLines lines originalText = joinedLines lines := by
  rw [joinIniLines, if_pos (.inr hlines)]
  obtain ⟨line, more, rfl⟩ := List.exists_cons_of_ne_nil hlines
  exact intercalate_newline line more

variable {values}

theorem assigned_defaultHeader (hgiven : GivenOptions optionxform values.entries) (h : isDefaultHeader line = true) :
    capacityEditor.assigned values.entries line = none := by
  cases hassigned : capacityEditor.assigned values.entries line with
  | none => rfl
  | some item =>
    obtain ⟨m, hm, rfl, hitem, hkey⟩ := assigned_some hassigned
    obtain ⟨c, cs, hcs, hspace, hfirst⟩ := (hgiven.names item hitem).first_char
    rw [← hkey, String.toList_ofList] at hcs
    have hstrip : ∃ rest, (strip (String.ofList m.line)).toList = c :: rest := by
      rw [toList_strip, String.toList_ofList, KeyValue.line, List.dropWhile_append_of_pos hm.indent, hcs,
        List.cons_append, List.cons_append, List.dropWhile_cons_of_neg (by simp [hspace])]
      exact ⟨_, rdropWhile_append_cons hspace [] _⟩
    obtain ⟨rest, hrest⟩ := hstrip
    have hlower := congrArg String.toList (of_decide_eq_true h)
    rw [lower, String.toList_ofList, hrest, List.map_cons] at hlower
    have hbracket : c.toLower = '[' := (List.cons.inj hlower).1
    exact absurd (by simp [eq_of_toLower_eq hbracket (by decide)]) hfirst

theorem defaultSectionBounds_cons (first : List Char) (rest : List (List Char)) :
    defaultSectionBounds (first :: rest) =
      if isDefaultHeader first then (1, 1 + rest.findIdx sectionMatch) else (0, (first :: rest).findIdx sectionMatch) := by
  unfold defaultSectionBounds
  dsimp only
  by_cases h : lower (strip (String.ofList first)) = "[default]"
  · have hheader : isDefaultHeader first = true := decide_eq_true h
    rw [if_pos h, if_pos hheader]
    rfl
  · have hheader : isDefaultHeader first = false := decide_eq_false h
    rw [if_neg h, hheader, List.drop_zero, Nat.zero_add]
    rfl

/-- The lines in the bounds are those in front of the first section but for the header. -/
theorem updatedLines_eq (hgiven : GivenOptions optionxform values.entries) (lines : List (List Char)) {bounds : Nat × Nat}
    (hbounds : defaultSectionBounds lines = bounds) :
    lines.take bounds.1 ++ (replaceExistingDefaultValues values ((lines.take bounds.2).drop bounds.1)).1 ++
      missingDefaultValueLines values (replaceExistingDefaultValues values ((lines.take bounds.2).drop bounds.1)).2 ++
        lines.drop bounds.2 = capacityEditor.editedLines values.entries lines := by
  have hends : capacityEditor.ends false = sectionMatch := by
    funext line
    simp [capacityEditor]
  rw [replaceExistingDefaultValues_fst, missingDefaultValueLines_eq values fun key => mem_seen values, LineEditor.editedLines]
  cases lines with
  | nil =>
    subst hbounds
    rfl
  | cons first rest =>
    have hbound : capacityEditor.bound (first :: rest) =
        if capacityEditor.ends true first then 0 else 1 + rest.findIdx sectionMatch := by rw [LineEditor.bound, hends]
    rw [defaultSectionBounds_cons] at hbounds
    split at hbounds
    · rename_i hheader
      subst hbounds
      have hfirst : capacityEditor.ends true first = false := by simp [capacityEditor, hheader]
      have hedit : capacityEditor.edit values.entries first = first := by
        rw [LineEditor.edit, assigned_defaultHeader hgiven hheader]
      have hmissing : ∀ before, capacityEditor.missing values.entries (first :: before) =
          capacityEditor.missing values.entries before := by
        intro before
        refine List.filter_congr fun item hitem => decide_eq_decide.mpr ?_
        rw [List.forall_mem_cons, assigned_defaultHeader hgiven hheader]
        exact and_iff_right (Option.some_ne_none _).symm
      have htake : (first :: rest).take (1 + rest.findIdx sectionMatch) = first :: rest.take (rest.findIdx sectionMatch) := by
        rw [Nat.add_comm, List.take_succ_cons]
      rw [hbound, hfirst, if_neg Bool.false_ne_true]
      dsimp only
      rw [htake, List.drop_one, List.tail_cons, List.map_cons, hmissing, hedit]
      rfl
    · rename_i hheader
      subst hbounds
      have hfirst : capacityEditor.ends true first = sectionMatch first := by simp [capacityEditor, hheader]
      have hsame : capacityEditor.bound (first :: rest) = (first :: rest).findIdx sectionMatch := by
        rw [hbound, hfirst, List.findIdx_cons]
        cases sectionMatch first with
        | true => rfl
        | false => exact Nat.add_comm _ _
      rw [hsame]
      rfl

/-- The update of `_upsert_default_values` is the one of its editor. -/
theorem upsertDefaultValues_eq (hgiven : GivenOptions optionxform values.entries) (text : List Char) :
    upsertDefaultValues values text = capacityEditor.upsert values.entries text := by
  obtain ⟨line, hline, -⟩ := LineEditor.exists_editedLine (lawful_capacityEditor hgiven) hgiven.nonempty
    (capacityEditor.lines text)
  rw [upsertDefaultValues, if_neg hgiven.nonempty]
  dsimp only
  rw [updatedLines_eq hgiven (linesBy isLineBoundary text) rfl]
  exact joinIniLines_eq (List.ne_nil_of_mem hline) text

end Update

end VenusEvcharger.Inputs
