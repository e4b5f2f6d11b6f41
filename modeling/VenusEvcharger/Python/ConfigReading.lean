import VenusEvcharger.Library.LineBreaks
import VenusEvcharger.Python.ConfigParser

/-!
# Reading with any option names, and reading an edited text

`configparser` with an `optionxform`, line by line. `Follows` relates the reading of a text to the reading of an edited
one: some options of the default section have new values, and some were inserted. A line that is kept, a line that is
replaced, an inserted line and an unindented header each keep the relation.
-/

namespace VenusEvcharger

open Library

namespace ConfigParser

section Reading

variable (optionxform : String → String)

/-- `readOption` of a parser with this `optionxform`. -/
def Reading.readOptionAs (r : Reading) (value : String) : Except IniError Reading :=
  match sectionHeader value.toList, r.sectname with
  | some sectname, _ => r.openSection sectname
  | none, none => .error .missingSectionHeader
  | none, some sectname =>
    match optionLine value.toList with
    | none => .ok { r with bogus := true }
    | some (name, optval) =>
      let optname := optionxform name
      if (sectname, optname) ∈ r.addedOptions then .error .duplicateOption
      else
        .ok { r.setOption sectname optname [optval] with
          optname := some optname
          addedOptions := (sectname, optname) :: r.addedOptions
          bogus := r.bogus || name = "" }

/-- The stripped line is a comment. -/
def isComment (value : String) : Bool := value.startsWith "#" || value.startsWith ";"

/-- The line goes on with the value of the open option. -/
def Reading.continues (r : Reading) (line : List Char) : Bool :=
  r.optname.any (· ≠ "") && decide (r.indentLevel < (line.takeWhile isSpace).length)

/-- `readLine` of a parser with this `optionxform`. -/
def Reading.readLineAs (r : Reading) (line : List Char) : Except IniError Reading :=
  let value := strip (String.ofList line)
  if isComment value then .ok r
  else if value = "" then .ok (r.append "")
  else if r.continues line then .ok (r.append value)
  else { r with indentLevel := (line.takeWhile isSpace).length }.readOptionAs optionxform value

/-- Nothing was read yet. -/
def Reading.start : Reading where
  defaults := Dict.empty
  sections := Dict.empty
  sectname := none
  optname := none
  indentLevel := 0
  addedSections := []
  addedOptions := []
  bogus := false

/-- The parser after reading, unless a line was no option. -/
def Reading.finish (r : Reading) : Except IniError ConfigParser :=
  if r.bogus then .error .parsing
  else .ok ⟨Reading.joined r.defaults, r.sections.mapVal fun _ options => Reading.joined options⟩

/-- `readText` of a parser with this `optionxform`. -/
def readTextAs (text : List Char) : Except IniError ConfigParser := do
  let r ← (splitLines text).foldlM (Reading.readLineAs optionxform) Reading.start
  r.finish

end Reading

/-! ## The lines of a text -/

/-- A line break of universal newlines. -/
def isLineBreak (c : Char) : Bool := c == '\n' || c == '\r'

theorem splitLines_eq (cs : List Char) : splitLines cs = linesBy isLineBreak cs := by
  induction cs using splitLines.induct with
  | case1 => rfl
  | case2 rest ih => rw [splitLines, linesBy_crlf, ih]
  | case3 rest hcrlf ih =>
    rw [splitLines, linesBy_cons fun more _ => hcrlf more, ih]
    · rfl
    · exact hcrlf
  | case4 rest ih => rw [splitLines, linesBy_newline rfl, ih]
  | case5 c rest _ hreturn hfeed hnil ih =>
    have hc : isLineBreak c = false := by
      simp only [isLineBreak, Bool.or_eq_false_iff, beq_eq_false_iff_ne]
      exact ⟨hfeed, hreturn⟩
    rw [linesBy_cons fun _ h => absurd h hreturn, hc, ← ih, hnil, splitLines, hnil]
    · rfl
    all_goals assumption
  | case6 c rest _ hreturn hfeed line lines hlines ih =>
    have hc : isLineBreak c = false := by
      simp only [isLineBreak, Bool.or_eq_false_iff, beq_eq_false_iff_ne]
      exact ⟨hfeed, hreturn⟩
    rw [linesBy_cons fun _ h => absurd h hreturn, hc, ← ih, hlines, splitLines, hlines]
    · rfl
    all_goals assumption

/-- The lines that a piece of the text ended by a line feed has. -/
def linesOf (chunk : List Char) : List (List Char) := splitLines (chunk ++ ['\n'])

theorem splitLines_joinedLines (chunks : List (List Char)) : splitLines (joinedLines chunks) = chunks.flatMap linesOf := by
  rw [splitLines_eq, linesBy_joinedLines rfl]
  refine List.flatMap_congr fun chunk _ => ?_
  rw [linesOf, splitLines_eq]

theorem linesOf_line {line : List Char} (h : ∀ c ∈ line, isLineBreak c = false) : linesOf line = [line] := by
  rw [linesOf, splitLines_eq, linesBy_line rfl]
  refine ⟨h, fun hlast => ?_⟩
  exact absurd (h _ (List.mem_of_getLast? hlast)) (by decide)

/-! ## What reading keeps -/

namespace Reading

/-- The options of the default section that were read are those that were added, each with at least one line. -/
structure Sound (r : Reading) : Prop where
  lines : ∀ key lines, r.defaults.get? key = some lines → lines ≠ []
  opened : ∀ key, r.sectname = some defaultSection → r.optname = some key → (r.defaults.get? key).isSome
  added : ∀ key, (defaultSection, key) ∈ r.addedOptions ↔ (r.defaults.get? key).isSome

theorem sound_start : start.Sound where
  lines _ _ h := nomatch h
  opened _ h := nomatch h
  added _ := ⟨nofun, nofun⟩

variable {optionxform : String → String} {r r₁ : Reading} {line : List Char}

theorem append_closed (h : r.sectname = none ∨ r.optname = none ∨ r.optname = some "") (text : String) :
    r.append text = r := by
  unfold append
  split
  · rename_i hsect hopt
    rcases h with h | h | h
    · nomatch hsect.symm.trans h
    · nomatch hopt.symm.trans h
    · rw [if_pos (Option.some.inj (hopt.symm.trans h))]
  · rfl

theorem append_default {key : String} (hsect : r.sectname = some defaultSection) (hopt : r.optname = some key)
    (hkey : key ≠ "") (text : String) :
    r.append text = { r with defaults := r.defaults.set key (r.defaults.getD key [] ++ [text]) } := by
  unfold append
  rw [hsect, hopt]
  dsimp only
  rw [if_neg hkey, if_pos rfl, setOption, if_pos rfl]
  simp only [hsect, hopt]

variable {sectname : String}

theorem append_section {key : String} (hsect : r.sectname = some sectname) (hdefault : sectname ≠ defaultSection)
    (hopt : r.optname = some key) (hkey : key ≠ "") (text : String) :
    r.append text = { r with
      sections := r.sections.set sectname ((r.sections.getD sectname Dict.empty).set key
        ((r.sections.getD sectname Dict.empty).getD key [] ++ [text])) } := by
  unfold append
  rw [hsect, hopt]
  dsimp only
  rw [if_neg hkey, if_neg hdefault, setOption, if_neg hdefault]
  simp only [hsect, hopt]

/-- Which option a further line is appended to. -/
theorem open_cases (r : Reading) :
    (r.sectname = none ∨ r.optname = none ∨ r.optname = some "") ∨
      (∃ key, r.sectname = some defaultSection ∧ r.optname = some key ∧ key ≠ "") ∨
      ∃ sectname key, r.sectname = some sectname ∧ sectname ≠ defaultSection ∧ r.optname = some key ∧ key ≠ "" := by
  cases hsect : r.sectname with
  | none => exact .inl (.inl rfl)
  | some sectname =>
    cases hopt : r.optname with
    | none => exact .inl (.inr (.inl rfl))
    | some key =>
      by_cases hkey : key = ""
      · exact .inl (.inr (.inr (by rw [hkey])))
      by_cases hdefault : sectname = defaultSection
      · exact .inr (.inl ⟨key, by rw [hdefault], rfl, hkey⟩)
      · exact .inr (.inr ⟨sectname, key, rfl, hdefault, rfl, hkey⟩)

theorem Sound.append (hr : r.Sound) (text : String) : (r.append text).Sound := by
  rcases r.open_cases with hclosed | ⟨key, hsect, hopt, hkey⟩ | ⟨sectname, key, hsect, hdefault, hopt, hkey⟩
  · rwa [append_closed hclosed]
  · rw [append_default hsect hopt hkey]
    have hset : ∀ other, ((r.defaults.set key (r.defaults.getD key [] ++ [text])).get? other).isSome =
        (r.defaults.get? other).isSome := by
      intro other
      rw [Dict.get?_set]
      split
      · rename_i heq
        rw [heq, hr.opened key hsect hopt]
        rfl
      · rfl
    refine ⟨fun other lines hlines => ?_, fun other hs ho => ?_, fun other => ?_⟩
    · rw [Dict.get?_set] at hlines
      split at hlines
      · obtain rfl := Option.some.inj hlines
        simp
      · exact hr.lines other lines hlines
    · exact (hset other).trans (hr.opened other hs ho)
    · show _ ↔ ((r.defaults.set key _).get? other).isSome = true
      rw [hset other]
      exact hr.added other
  · rw [append_section hsect hdefault hopt hkey]
    exact ⟨hr.lines, hr.opened, hr.added⟩

theorem openSection_keeps (h : r.openSection sectname = .ok r₁) :
    r₁.defaults = r.defaults ∧ r₁.addedOptions = r.addedOptions ∧ r₁.optname = none := by
  unfold openSection at h
  split at h
  · split at h
    · cases h
    · cases h
      exact ⟨rfl, rfl, rfl⟩
  · split at h
    · cases h
      exact ⟨rfl, rfl, rfl⟩
    · cases h
      exact ⟨rfl, rfl, rfl⟩

theorem Sound.openSection (hr : r.Sound) (h : r.openSection sectname = .ok r₁) : r₁.Sound := by
  obtain ⟨hdefaults, hadded, hopt⟩ := openSection_keeps h
  refine ⟨by rw [hdefaults]; exact hr.lines, fun key _ hopen => ?_, by rw [hdefaults, hadded]; exact hr.added⟩
  nomatch hopt.symm.trans hopen

/-- The reading after a new option. -/
def withOption (r : Reading) (sectname optname optval : String) (nameless : Bool) : Reading :=
  { r.setOption sectname optname [optval] with
    optname := some optname
    addedOptions := (sectname, optname) :: r.addedOptions
    bogus := r.bogus || nameless }

theorem withOption_default (r : Reading) (optname optval : String) (nameless : Bool) :
    r.withOption defaultSection optname optval nameless =
      { r with
        defaults := r.defaults.set optname [optval]
        optname := some optname
        addedOptions := (defaultSection, optname) :: r.addedOptions
        bogus := r.bogus || nameless } := by
  rw [withOption, setOption, if_pos rfl]

theorem withOption_section (hdefault : sectname ≠ defaultSection) (r : Reading)
    (optname optval : String) (nameless : Bool) :
    r.withOption sectname optname optval nameless =
      { r with
        sections := r.sections.set sectname ((r.sections.getD sectname Dict.empty).set optname [optval])
        optname := some optname
        addedOptions := (sectname, optname) :: r.addedOptions
        bogus := r.bogus || nameless } := by
  rw [withOption, setOption, if_neg hdefault]

theorem Sound.withOption (hr : r.Sound) (hsect : r.sectname = some sectname)
    (optname optval : String) (nameless : Bool) : (r.withOption sectname optname optval nameless).Sound := by
  by_cases hdefault : sectname = defaultSection
  · subst hdefault
    rw [withOption_default]
    refine ⟨fun key lines hlines => ?_, fun key _ hopt => ?_, fun key => ?_⟩
    · rw [Dict.get?_set] at hlines
      split at hlines
      · obtain rfl := Option.some.inj hlines
        exact List.cons_ne_nil _ _
      · exact hr.lines key lines hlines
    · obtain rfl : optname = key := Option.some.inj hopt
      show ((r.defaults.set optname [optval]).get? optname).isSome = true
      rw [Dict.get?_set_self]
      rfl
    · show (defaultSection, key) ∈ (defaultSection, optname) :: r.addedOptions ↔
        ((r.defaults.set optname [optval]).get? key).isSome = true
      rw [Dict.get?_set, List.mem_cons, Prod.mk.injEq, hr.added key]
      split
      · rename_i heq
        simp [heq]
      · rename_i hne
        simp [hne]
  · rw [withOption_section hdefault]
    refine ⟨hr.lines, fun key hs _ => ?_, fun key => ?_⟩
    · exact absurd (Option.some.inj (hsect.symm.trans hs)) hdefault
    · show (defaultSection, key) ∈ (sectname, optname) :: r.addedOptions ↔ _
      rw [List.mem_cons, Prod.mk.injEq, hr.added key]
      simp [Ne.symm hdefault]

/-- A line that is neither a comment nor blank nor a continuation. -/
theorem readOptionAs_cases {value : String} (h : r.readOptionAs optionxform value = .ok r₁) :
    (∃ sectname, sectionHeader value.toList = some sectname ∧ r.openSection sectname = .ok r₁) ∨
      ∃ sectname, sectionHeader value.toList = none ∧ r.sectname = some sectname ∧
        ((optionLine value.toList = none ∧ r₁ = { r with bogus := true }) ∨
          ∃ name optval, optionLine value.toList = some (name, optval) ∧
            (sectname, optionxform name) ∉ r.addedOptions ∧
              r₁ = r.withOption sectname (optionxform name) optval (name = "")) := by
  unfold readOptionAs at h
  split at h
  · rename_i _ sectname hheader
    exact .inl ⟨sectname, hheader, h⟩
  · cases h
  · rename_i sectname hheader hsect
    refine .inr ⟨sectname, hheader, hsect, ?_⟩
    split at h
    · rename_i hline
      cases h
      exact .inl ⟨hline, rfl⟩
    · rename_i name optval hline
      dsimp only at h
      split at h
      · cases h
      · rename_i hnew
        cases h
        exact .inr ⟨name, optval, hline, hnew, rfl⟩

theorem Sound.readLineAs (hr : r.Sound) (h : r.readLineAs optionxform line = .ok r₁) : r₁.Sound := by
  unfold Reading.readLineAs at h
  dsimp only at h
  split at h
  · cases h
    exact hr
  · split at h
    · cases h
      exact hr.append ""
    · split at h
      · cases h
        exact hr.append _
      · have hindent : Sound { r with indentLevel := (line.takeWhile isSpace).length } :=
          ⟨hr.lines, hr.opened, hr.added⟩
        rcases readOptionAs_cases h with ⟨sectname, -, hopen⟩ | ⟨sectname, -, hsect, hother⟩
        · exact hindent.openSection hopen
        · rcases hother with ⟨-, rfl⟩ | ⟨name, optval, -, -, rfl⟩
          · exact ⟨hr.lines, hr.opened, hr.added⟩
          · exact hindent.withOption hsect _ _ _

end Reading

end ConfigParser

end VenusEvcharger
