import VenusEvcharger.Python.ConfigReading

/-!
# Writing a section with `configparser`

`ConfigParser.write` on a parser with one section. `readText_sectionText` says that reading the text gives the section
back when no name or value needs more than one line: such texts have no blanks, and their values no `%`.
-/

namespace VenusEvcharger

open Library

namespace ConfigParser

/-- `str(value).replace('\n', '\n\t')`. -/
def continued (value : List Char) : List Char := value.flatMap fun c => if c = '\n' then ['\n', '\t'] else [c]

/-- An option with spaces around the delimiter, without its line break. -/
def optionText (key value : String) : List Char := key.toList ++ ' ' :: '=' :: ' ' :: continued value.toList

/-- `_write_section`. -/
def sectionText (name : String) (options : List (String × String)) : String :=
  String.ofList ('[' :: name.toList ++ ']' :: '\n' ::
    (options.flatMap fun option => optionText option.1 option.2 ++ ['\n']) ++ ['\n'])

/-- `parser[name] = options`, which refuses a value with a bare `%`, and `parser.write`. -/
def writeSection (name : String) (options : Dict String String) : Except PyError String :=
  if ∀ option ∈ options.entries, settable option.2 = true then .ok (sectionText name options.entries)
  else .error .valueError

/-! ## Plain texts -/

/-- The text has neither blanks nor `%`. -/
def Plain (s : String) : Prop := ∀ c ∈ s.toList, isSpace c = false ∧ c ≠ '%'

instance (s : String) : Decidable (Plain s) := inferInstanceAs (Decidable (∀ c ∈ s.toList, _))

/-- The text has neither blanks nor characters that the syntax gives a meaning to, and is not empty. -/
def PlainName (s : String) : Prop :=
  (∀ c ∈ s.toList, isSpace c = false ∧ c ∉ ['=', ':', '[', ']', '#', ';']) ∧ s ≠ ""

instance (s : String) : Decidable (PlainName s) := inferInstanceAs (Decidable (_ ∧ _))

variable {cs : List Char}

theorem plainName_ofList
    (h : cs ≠ [] ∧ ∀ c ∈ cs, isSpace c = false ∧ c ∉ ['=', ':', '[', ']', '#', ';']) : PlainName (String.ofList cs) := by
  refine ⟨?_, fun hempty => h.1 (String.ofList_injective (hempty.trans String.ofList_nil.symm))⟩
  rw [String.toList_ofList]
  exact h.2

theorem trimmed_of_noSpace {s : String} (h : ∀ c ∈ s.toList, isSpace c = false) : Trimmed s := by
  refine ⟨fun c hc => ?_, fun c hc => ?_⟩
  · simp [h c (List.mem_of_mem_head? hc)]
  · simp [h c (List.mem_of_mem_getLast? hc)]

theorem Plain.trimmed {s : String} (h : Plain s) : Trimmed s := trimmed_of_noSpace fun c hc => (h c hc).1

theorem PlainName.trimmed {s : String} (h : PlainName s) : Trimmed s := trimmed_of_noSpace fun c hc => (h.1 c hc).1

theorem noSpace_ne_newline {c : Char} (h : isSpace c = false) : c ≠ '\n' ∧ c ≠ '\r' := by
  constructor
  · rintro rfl
    exact absurd h (by decide)
  · rintro rfl
    exact absurd h (by decide)

variable {value : String}

/-- A value of one line is written as it is. -/
theorem continued_of_plain (h : Plain value) : continued value.toList = value.toList := by
  have hline : ∀ c ∈ value.toList, c ≠ '\n' := fun c hc => (noSpace_ne_newline (h c hc).1).1
  unfold continued
  revert hline
  induction value.toList with
  | nil => exact fun _ => rfl
  | cons c cs ih =>
    intro hline
    rw [List.flatMap_cons, ih fun d hd => hline d (List.mem_cons_of_mem _ hd),
      if_neg (hline c List.mem_cons_self), List.singleton_append]

/-! ## Lines -/

/-- The first line of a text is read up to its line break. -/
theorem splitLines_line {line : List Char} (hline : ∀ c ∈ line, c ≠ '\n' ∧ c ≠ '\r') (rest : List Char) :
    splitLines (line ++ '\n' :: rest) = line :: splitLines rest := by
  induction line with
  | nil => rfl
  | cons c cs ih =>
    have ih := ih fun d hd => hline d (List.mem_cons_of_mem _ hd)
    obtain ⟨hnewline, hreturn⟩ := hline c List.mem_cons_self
    rw [List.cons_append, splitLines.eq_def]
    split
    · rename_i h
      nomatch h
    · rename_i h
      exact absurd (List.cons.inj h).1 hreturn
    · rename_i h
      exact absurd (List.cons.inj h).1 hreturn
    · rename_i h
      exact absurd (List.cons.inj h).1 hnewline
    · rename_i h
      obtain ⟨rfl, rfl⟩ := List.cons.inj h
      rw [ih]

variable {key : String}

theorem optionText_oneLine (hkey : PlainName key) (hvalue : Plain value) :
    ∀ c ∈ optionText key value, c ≠ '\n' ∧ c ≠ '\r' := by
  intro c hc
  rw [optionText, continued_of_plain hvalue] at hc
  simp only [List.mem_append, List.mem_cons] at hc
  rcases hc with hc | rfl | rfl | rfl | hc
  · exact noSpace_ne_newline (hkey.1 c hc).1
  · decide
  · decide
  · decide
  · exact noSpace_ne_newline (hvalue c hc).1

variable {name : String}

variable {options : List (String × String)}

theorem splitLines_sectionText (hname : PlainName name)
    (hoptions : ∀ option ∈ options, PlainName option.1 ∧ Plain option.2) :
    splitLines (sectionText name options).toList =
      ('[' :: name.toList ++ [']']) :: ((options.map fun option => optionText option.1 option.2) ++ [[]]) := by
  have hbody : ∀ options : List (String × String), (∀ option ∈ options, PlainName option.1 ∧ Plain option.2) →
      splitLines ((options.flatMap fun option => optionText option.1 option.2 ++ ['\n']) ++ ['\n']) =
        (options.map fun option => optionText option.1 option.2) ++ [[]] := by
    intro options
    induction options with
    | nil => exact fun _ => rfl
    | cons option options ih =>
      intro hoptions
      obtain ⟨hkey, hvalue⟩ := hoptions option List.mem_cons_self
      rw [List.flatMap_cons, List.append_assoc, List.append_assoc, List.singleton_append,
        splitLines_line (optionText_oneLine hkey hvalue), ih fun o ho => hoptions o (List.mem_cons_of_mem _ ho)]
      rfl
  have hheader : ∀ c ∈ '[' :: name.toList ++ [']'], c ≠ '\n' ∧ c ≠ '\r' := by
    intro c hc
    simp only [List.mem_append, List.mem_cons, List.not_mem_nil, or_false] at hc
    rcases hc with (rfl | hc) | rfl
    · decide
    · exact noSpace_ne_newline (hname.1 c hc).1
    · decide
  rw [sectionText, String.toList_ofList, ← hbody options hoptions, ← splitLines_line hheader]
  simp

/-! ## Reading the lines -/

theorem trimmed_append {s t : String} (mid : List Char) (hs : Trimmed s) (hsne : s ≠ "") (ht : Trimmed t) (htne : t ≠ "") :
    Trimmed (String.ofList (s.toList ++ mid ++ t.toList)) := by
  have hsne : s.toList ≠ [] := fun h => hsne (String.toList_eq_nil_iff.mp h)
  have htne : t.toList ≠ [] := fun h => htne (String.toList_eq_nil_iff.mp h)
  constructor
  · intro c hc
    rw [String.toList_ofList, List.append_assoc, List.head?_append_of_ne_nil _ hsne] at hc
    exact hs.1 c hc
  · intro c hc
    rw [String.toList_ofList, List.getLast?_append_of_ne_nil _ htne] at hc
    exact ht.2 c hc

/-- An option line loses the blank before an empty value. -/
theorem strip_optionText (hkey : PlainName key) (hvalue : Plain value) :
    (strip (String.ofList (optionText key value))).toList =
      key.toList ++ ' ' :: '=' :: (if value = "" then [] else ' ' :: value.toList) := by
  rw [optionText, continued_of_plain hvalue]
  by_cases hempty : value = ""
  · have htrimmed := trimmed_append [' '] hkey.trimmed hkey.2 (show Trimmed "=" from trimmed_of_noSpace (by decide)) (by decide)
    have hstrip := @strip_padded [] [' '] _ nofun (by decide) htrimmed
    simpa [hempty] using congrArg String.toList hstrip
  · have htrimmed := trimmed_append [' ', '=', ' '] hkey.trimmed hkey.2 hvalue.trimmed hempty
    simpa [hempty] using congrArg String.toList (strip_eq_self_iff.mpr htrimmed)

theorem optionLine_of_key (hkey : PlainName key) {rest : List Char}
    (hrest : strip (String.ofList rest) = value) :
    optionLine (key.toList ++ ' ' :: '=' :: rest) = some (key, value) := by
  have hname : ∀ c ∈ key.toList ++ [' '], (c ≠ '=' && c ≠ ':') = true := by
    intro c hc
    rcases List.mem_append.mp hc with hc | hc
    · have := (hkey.1 c hc).2
      simp_all
    · obtain rfl := List.mem_singleton.mp hc
      decide
  have hsplit : key.toList ++ ' ' :: '=' :: rest = (key.toList ++ [' ']) ++ '=' :: rest := by simp
  have hkeyText : strip (String.ofList (key.toList ++ [' '])) = key := by
    simpa using @strip_padded [] [' '] _ nofun (by decide) hkey.trimmed
  rw [optionLine, hsplit, List.dropWhile_append_of_pos hname, List.takeWhile_append_of_pos hname]
  show some (strip (String.ofList (key.toList ++ [' '] ++ [])), strip (String.ofList rest)) = some (key, value)
  rw [List.append_nil, hkeyText, hrest]

theorem optionLine_optionText (hkey : PlainName key) (hvalue : Plain value) :
    optionLine (strip (String.ofList (optionText key value))).toList = some (key, value) := by
  rw [strip_optionText hkey hvalue]
  apply optionLine_of_key hkey
  by_cases hempty : value = ""
  · rw [if_pos hempty, hempty]
    rfl
  · rw [if_neg hempty]
    simpa using @strip_padded [' '] [] _ (by decide) nofun hvalue.trimmed

/-- What was read of a section with these options. -/
def Reading.afterOptions (name : String) (options : List (String × String)) : Reading where
  defaults := Dict.empty
  sections := Dict.empty.set name (Dict.ofList (options.map fun option => (option.1, [option.2])))
  sectname := some name
  optname := options.getLast?.map Prod.fst
  indentLevel := 0
  addedSections := [name]
  addedOptions := (options.map fun option => (name, option.1)).reverse
  bogus := false

theorem sectionHeader_of_name (hname : PlainName name) :
    sectionHeader ('[' :: name.toList ++ [']']) = some name := by
  have hne : name.toList.reverse ≠ [] := by simpa using fun h => hname.2 (String.toList_eq_nil_iff.mp h)
  obtain ⟨c, cs, hcs⟩ := List.exists_cons_of_ne_nil hne
  have hback : (c :: cs).reverse = name.toList := by rw [← hcs, List.reverse_reverse]
  have hrest : (name.toList ++ [']']).reverse = ']' :: c :: cs := by rw [List.reverse_append, hcs]; rfl
  rw [List.cons_append, sectionHeader, hrest]
  show some (String.ofList (c :: cs).reverse) = some name
  rw [hback, String.ofList_toList]

theorem readLine_header (hname : PlainName name) (hdefault : name ≠ defaultSection) :
    Reading.start.readLine ('[' :: name.toList ++ [']']) = .ok (Reading.afterOptions name []) := by
  have hopen : Trimmed "[" := trimmed_of_noSpace (by decide)
  have hclose : Trimmed "]" := trimmed_of_noSpace (by decide)
  have htrimmed := trimmed_append name.toList hopen (by decide) hclose (by decide)
  have hstrip : strip (String.ofList ('[' :: name.toList ++ [']'])) = String.ofList ('[' :: name.toList ++ [']']) :=
    strip_eq_self_iff.mpr (by simpa using htrimmed)
  have hindent : (('[' :: name.toList ++ [']']).takeWhile isSpace).length = 0 := by
    rw [List.cons_append, List.takeWhile_cons_of_neg (by decide)]
    rfl
  unfold Reading.readLine
  dsimp only
  rw [hstrip, if_neg, if_neg, hindent]
  · rw [if_neg (by simp [Reading.start]), Reading.readOption, String.toList_ofList, sectionHeader_of_name hname]
    simp [Reading.openSection, hdefault, Reading.start, Reading.afterOptions, Dict.ofList]
  · intro h
    simpa using congrArg String.toList h
  · simp

theorem readOption_new {r : Reading} {sectname optname optval : String}
    (hheader : sectionHeader value.toList = none) (hsect : r.sectname = some sectname)
    (hline : optionLine value.toList = some (optname, optval))
    (hnew : (sectname, optname) ∉ r.addedOptions) (hname : optname ≠ "") :
    r.readOption value = .ok { r.setOption sectname optname [optval] with
      optname := some optname
      addedOptions := (sectname, optname) :: r.addedOptions
      bogus := r.bogus } := by
  unfold Reading.readOption
  rw [hheader, hsect]
  dsimp only
  rw [hline]
  dsimp only
  rw [if_neg hnew, decide_eq_false hname, Bool.or_false]

theorem ofList_append_singleton {ν : Type} (es : List (String × ν)) (e : String × ν) :
    Dict.ofList (es ++ [e]) = (Dict.ofList es).set e.1 e.2 := List.foldl_append ..

/-- The lines of the options that were read. -/
theorem getD_afterOptions (name : String) (options : List (String × String)) :
    (Reading.afterOptions name options).sections.getD name Dict.empty =
      Dict.ofList (options.map fun option => (option.1, [option.2])) := by
  simp [Reading.afterOptions, Dict.getD]

section

variable (hdefault : name ≠ defaultSection)
include hdefault

theorem setOption_section (options : List (String × String)) (key : String) (lines : List String) :
    (Reading.afterOptions name options).setOption name key lines =
      { Reading.afterOptions name options with
        sections := Dict.empty.set name
          ((Dict.ofList (options.map fun option => (option.1, [option.2]))).set key lines) } := by
  rw [Reading.setOption, if_neg hdefault, getD_afterOptions, Reading.afterOptions, Dict.set_set]

theorem setOption_afterOptions (options : List (String × String)) (key value : String) :
    (Reading.afterOptions name options).setOption name key [value] =
      { Reading.afterOptions name options with
        sections := (Reading.afterOptions name (options ++ [(key, value)])).sections } := by
  have hset : (Dict.ofList (options.map fun option => (option.1, [option.2]))).set key [value] =
      Dict.ofList ((options ++ [(key, value)]).map fun option => (option.1, [option.2])) := by
    rw [List.map_append, List.map_singleton, ofList_append_singleton]
  rw [setOption_section hdefault, hset]
  rfl

theorem readLine_option (hkey : PlainName key) (hvalue : Plain value)
    (hfresh : key ∉ options.map Prod.fst) :
    (Reading.afterOptions name options).readLine (optionText key value) =
      .ok (Reading.afterOptions name (options ++ [(key, value)])) := by
  obtain ⟨c, cs, hcs⟩ := List.exists_cons_of_ne_nil fun h => hkey.2 (String.toList_eq_nil_iff.mp h)
  obtain ⟨hspace, hsyntax⟩ := hkey.1 c (by simp [hcs])
  have hindent : ((optionText key value).takeWhile isSpace).length = 0 := by
    rw [optionText, hcs, List.cons_append, List.takeWhile_cons_of_neg (by simp [hspace])]
    rfl
  have hfirst : (strip (String.ofList (optionText key value))).toList.head? = some c := by
    rw [strip_optionText hkey hvalue, hcs]
    rfl
  have hcomment : ∀ mark : Char, mark ∈ ['#', ';'] →
      ¬[mark] <+: (strip (String.ofList (optionText key value))).toList := by
    rintro mark hmark ⟨rest, hrest⟩
    rw [← hrest] at hfirst
    obtain rfl := Option.some.inj hfirst
    simp_all
  have hheader : sectionHeader (strip (String.ofList (optionText key value))).toList = none := by
    obtain ⟨rest, hrest⟩ := List.head?_eq_some_iff.mp hfirst
    rw [hrest, sectionHeader]
    intro other hother
    rw [(List.cons.inj hother).1] at hsyntax
    exact hsyntax (by decide)
  have hnew : (name, key) ∉ (Reading.afterOptions name options).addedOptions := by
    simpa [Reading.afterOptions] using hfresh
  have hread := readOption_new hheader (r := Reading.afterOptions name options) rfl
    (optionLine_optionText hkey hvalue) hnew hkey.2
  unfold Reading.readLine
  dsimp only
  rw [if_neg, if_neg, hindent, if_neg (by simp)]
  · refine hread.trans (congrArg Except.ok ?_)
    rw [setOption_afterOptions hdefault]
    simp [Reading.afterOptions]
  · intro h
    rw [h] at hfirst
    nomatch hfirst
  · have hhash := hcomment '#' (by decide)
    have hsemi := hcomment ';' (by decide)
    simp [hhash, hsemi]

/-! ## Reading a section back -/

theorem foldlM_options (options more : List (String × String))
    (hmore : ∀ option ∈ more, PlainName option.1 ∧ Plain option.2)
    (hnodup : ((options ++ more).map Prod.fst).Nodup) :
    (more.map fun option => optionText option.1 option.2).foldlM Reading.readLine (Reading.afterOptions name options) =
      .ok (Reading.afterOptions name (options ++ more)) := by
  induction more generalizing options with
  | nil => rw [List.append_nil]; rfl
  | cons option more ih =>
    obtain ⟨hkey, hvalue⟩ := hmore option List.mem_cons_self
    have hassoc : options ++ option :: more = options ++ [option] ++ more := by simp
    have hfresh : option.1 ∉ options.map Prod.fst := by
      intro hmem
      rw [List.map_append, List.nodup_append] at hnodup
      exact hnodup.2.2 _ hmem _ List.mem_cons_self rfl
    rw [List.map_cons, List.foldlM_cons, readLine_option hdefault hkey hvalue hfresh, hassoc]
    exact ih (options ++ [option]) (fun o ho => hmore o (List.mem_cons_of_mem _ ho)) (hassoc ▸ hnodup)

end

/-- The text of a value is its lines without the blanks at the end. -/
theorem joined_lines (hvalue : Plain value) :
    String.ofList (("\n".intercalate [value]).toList.reverse.dropWhile isSpace).reverse = value ∧
      String.ofList (("\n".intercalate [value, ""]).toList.reverse.dropWhile isSpace).reverse = value := by
  have hself : value.toList.rdropWhile isSpace = value.toList := by
    rw [List.rdropWhile_eq_self_iff]
    intro hne
    exact hvalue.trimmed.2 _ (by rw [List.getLast?_eq_some_getLast hne]; rfl)
  have hone : ("\n".intercalate [value]).toList = value.toList := by simp
  have htwo : ("\n".intercalate [value, ""]).toList = value.toList ++ ['\n'] := by simp
  rw [hone, htwo, List.reverse_append, List.reverse_singleton, List.singleton_append,
    List.dropWhile_cons_of_pos (by decide), and_self, ← List.rdropWhile, hself, String.ofList_toList]

/-- The options of a section that was read, one line each. -/
theorem joined_options (hoptions : ∀ option ∈ options, Plain option.2) :
    Reading.joined (Dict.ofList (options.map fun option => (option.1, [option.2]))) = Dict.ofList options := by
  induction options using List.reverseRecOn with
  | nil => rfl
  | append_singleton options option ih =>
    have ih := ih fun o ho => hoptions o (List.mem_append_left _ ho)
    have hvalue := hoptions option (by simp)
    rw [List.map_append, List.map_singleton, ofList_append_singleton, ofList_append_singleton, Reading.joined,
      Dict.mapVal_set, ← ih, (joined_lines hvalue).1]
    rfl

/-- The blank line after a section is a further line of its last option, which is lost when the lines are joined. -/
theorem append_afterOptions (hdefault : name ≠ defaultSection)
    (hoptions : ∀ option ∈ options, PlainName option.1 ∧ Plain option.2)
    (hnodup : (options.map Prod.fst).Nodup) :
    ∃ section', (Reading.afterOptions name options).append "" =
        { Reading.afterOptions name options with sections := Dict.empty.set name section' } ∧
      Reading.joined section' = Dict.ofList options := by
  have hjoined := joined_options fun option hoption => (hoptions option hoption).2
  rcases List.eq_nil_or_concat options with rfl | ⟨before, last, rfl⟩
  · exact ⟨_, rfl, hjoined⟩
  · rw [List.concat_eq_append] at *
    obtain ⟨hkey, hvalue⟩ := hoptions last (by simp)
    have hlines : (Dict.ofList ((before ++ [last]).map fun option => (option.1, [option.2]))).get? last.1 =
        some [last.2] := by
      rw [List.map_append, List.map_singleton, ofList_append_singleton]
      exact Dict.get?_set_self _ _ _
    have hget : (Dict.ofList (before ++ [last])).get? last.1 = some last.2 := by
      rw [ofList_append_singleton]
      exact Dict.get?_set_self _ _ _
    have hopen : (Reading.afterOptions name (before ++ [last])).optname = some last.1 := by
      simp [Reading.afterOptions]
    refine ⟨(Dict.ofList ((before ++ [last]).map fun option => (option.1, [option.2]))).set last.1 [last.2, ""], ?_, ?_⟩
    · unfold Reading.append
      rw [hopen]
      show (if last.1 = "" then _ else Reading.setOption _ name last.1
        ((if name = defaultSection then _ else (Reading.afterOptions name (before ++ [last])).sections.getD name _).getD
          last.1 [] ++ [""])) = _
      rw [if_neg hkey.2, if_neg hdefault, setOption_section hdefault, getD_afterOptions, Dict.getD, hlines]
      rfl
    · rw [Reading.joined, Dict.mapVal_set, ← Reading.joined, hjoined, (joined_lines hvalue).2]
      exact Dict.set_of_get? hget

theorem readText_sectionText (hname : PlainName name) (hdefault : name ≠ defaultSection)
    (hoptions : ∀ option ∈ options, PlainName option.1 ∧ Plain option.2)
    (hnodup : (options.map Prod.fst).Nodup) :
    readText (sectionText name options) = .ok ⟨Dict.empty, Dict.empty.set name (Dict.ofList options)⟩ := by
  obtain ⟨section', happend, hjoined⟩ := append_afterOptions hdefault hoptions hnodup
  have hread : (splitLines (sectionText name options).toList).foldlM Reading.readLine Reading.start =
      .ok { Reading.afterOptions name options with sections := Dict.empty.set name section' } := by
    rw [splitLines_sectionText hname hoptions, List.foldlM_cons, readLine_header hname hdefault]
    show List.foldlM Reading.readLine (Reading.afterOptions name []) _ = _
    rw [List.foldlM_append, foldlM_options hdefault [] options hoptions hnodup, ← happend]
    rfl
  unfold readText
  refine bind_eq_ok.mpr ⟨_, hread, ?_⟩
  show Except.ok (ConfigParser.mk _ _) = _
  rw [Dict.mapVal_set, hjoined]
  rfl

/-! ## Values without `%` -/

theorem Plain.no_percent (h : Plain value) : '%' ∉ value.toList := fun hmem => (h _ hmem).2 rfl

theorem interpolateRest_plain (lookup : String → Option String) (nested : List Char → Except PyError (List Char))
    (hcs : '%' ∉ cs) : interpolateRest lookup nested cs.length cs = .ok cs := by
  induction cs with
  | nil => rfl
  | cons c cs ih =>
    obtain ⟨hc, hcs⟩ := not_or.mp (mt List.mem_cons.mpr hcs)
    rw [List.length_cons, interpolateRest]
    · rw [ih hcs]
      rfl
    · rintro rest h -
      exact hc h.symm
    · rintro rest h -
      exact hc h.symm
    · intro h
      exact hc h.symm

/-- A value without `%` is what its option gives. -/
theorem beforeGet_plain (lookup : String → Option String) (h : Plain value) :
    beforeGet lookup value = .ok value := by
  show String.ofList <$> interpolateRest lookup (interpolateSome lookup 9) value.toList.length value.toList = _
  rw [interpolateRest_plain _ _ h.no_percent]
  exact congrArg Except.ok (String.ofList_toList)

theorem dropPairs_plain (hcs : '%' ∉ cs) : dropPairs cs = cs := by
  induction cs with
  | nil => rfl
  | cons c cs ih =>
    obtain ⟨hc, hcs⟩ := not_or.mp (mt List.mem_cons.mpr hcs)
    rw [dropPairs, ih hcs]
    rintro rest h -
    exact hc h.symm

theorem dropReferences_plain (hcs : '%' ∉ cs) (rounds : Nat) : dropReferences rounds cs = cs := by
  induction cs generalizing rounds with
  | nil => cases rounds <;> rfl
  | cons c cs ih =>
    obtain ⟨hc, hcs⟩ := not_or.mp (mt List.mem_cons.mpr hcs)
    cases rounds with
    | zero => rfl
    | succ rounds =>
      rw [dropReferences, ih hcs]
      rintro rest h -
      exact hc h.symm

theorem settable_plain (h : Plain value) : settable value = true := by
  rw [settable, dropPairs_plain h.no_percent, dropReferences_plain h.no_percent]
  simp [h.no_percent]

theorem writeSection_plain (name : String) {options : Dict String String} (h : ∀ option ∈ options.entries, Plain option.2) :
    writeSection name options = .ok (sectionText name options.entries) :=
  if_pos fun option hoption => settable_plain (h option hoption)

theorem items_section {options : Dict String String}
    (h : ∀ option ∈ options.entries, Plain option.2) :
    items ⟨Dict.empty, Dict.empty.set name options⟩ name = .ok options.entries := by
  have hunified : ∀ option ∈ options.entries,
      unified ⟨Dict.empty, Dict.empty.set name options⟩ name option.1 = some option.2 := by
    intro option hoption
    simp [unified, Dict.mem_entries_iff.mp hoption]
  have hitems : ∀ es ⊆ options.entries, (es.map Prod.fst).mapM (fun key =>
      (fun value => (key, value)) <$> beforeGet (unified ⟨Dict.empty, Dict.empty.set name options⟩ name)
        ((unified ⟨Dict.empty, Dict.empty.set name options⟩ name key).getD "")) = .ok es := by
    intro es hes
    induction es with
    | nil => rfl
    | cons option es ih =>
      obtain ⟨hoption, hes⟩ := List.cons_subset.mp hes
      rw [List.map_cons, List.mapM_cons, hunified option hoption, ih hes]
      show (_ <$> beforeGet _ option.2) >>= _ = _
      rw [beforeGet_plain _ (h option hoption)]
      rfl
  have hoptions : ConfigParser.options ⟨Dict.empty, Dict.empty.set name options⟩ name = options.entries.map Prod.fst := by
    show ((Dict.getD _ name Dict.empty).update Dict.empty).keys = _
    rw [Dict.getD, Dict.get?_set_self]
    rfl
  rw [items, hoptions]
  exact hitems _ (List.Subset.refl _)

end ConfigParser

end VenusEvcharger
