import VenusEvcharger.Python.ConfigReading

/-!
# Reading an edited configuration

`Follows` relates the reading of a text to the reading of an edited one: some options of the default section have new
values, and some were inserted. A line that is kept, a line that is replaced, an inserted line and an unindented header
each keep the relation.
-/

namespace VenusEvcharger

open Library

namespace ConfigParser

namespace Reading

/-- The lines of an option whose first line has a new value. -/
def retold (new : Option String) (lines : List String) : List String :=
  match new, lines with
  | some value, _ :: more => value :: more
  | _, lines => lines

/-- The lines of an option of the default section in the edited text, from those in the text. -/
def edited (new : String → Option String) (inserted : List String) (key : String) :
    Option (List String) → Option (List String)
  | some lines => some (retold (new key) lines)
  | none => if key ∈ inserted then (new key).map fun value => [value] else none

/-- `r'` reads the edited text like `r` reads the text, up to the option that is open. -/
structure FollowsText (new : String → Option String) (inserted : List String) (r r' : Reading) : Prop where
  defaults : ∀ key, r'.defaults.get? key = edited new inserted key (r.defaults.get? key)
  sections : r'.sections = r.sections
  sectname : r'.sectname = r.sectname
  addedSections : r'.addedSections = r.addedSections
  addedOptions : ∀ option, option ∈ r'.addedOptions ↔
    option ∈ r.addedOptions ∨ ∃ key ∈ inserted, option = (defaultSection, key)
  bogus : r'.bogus = r.bogus
  given : ∀ key ∈ inserted, (new key).isSome

/-- `r'` reads the edited text like `r` reads the text. -/
structure Follows (new : String → Option String) (inserted : List String) (r r' : Reading) : Prop extends
    FollowsText new inserted r r' where
  optname : r'.optname = r.optname
  indentLevel : r'.indentLevel = r.indentLevel

variable {new : String → Option String} {inserted : List String} {r r' r₁ : Reading} {line : List Char}

theorem follows_start (new : String → Option String) : Follows new [] start start where
  defaults _ := rfl
  sections := rfl
  sectname := rfl
  addedSections := rfl
  addedOptions _ := by simp
  bogus := rfl
  given := nofun
  optname := rfl
  indentLevel := rfl

theorem retold_append {new : Option String} {lines : List String} (hlines : lines ≠ []) (text : String) :
    retold new (lines ++ [text]) = retold new lines ++ [text] := by
  obtain ⟨line, more, rfl⟩ := List.exists_cons_of_ne_nil hlines
  cases new <;> rfl

theorem Follows.append (h : Follows new inserted r r') (hr : r.Sound) (text : String) :
    Follows new inserted (r.append text) (r'.append text) := by
  rcases r.open_cases with hclosed | ⟨key, hsect, hopt, hkey⟩ | ⟨sectname, key, hsect, hdefault, hopt, hkey⟩
  · rw [append_closed hclosed, append_closed (by rwa [h.sectname, h.optname])]
    exact h
  · obtain ⟨lines, hlines⟩ := Option.isSome_iff_exists.mp (hr.opened key hsect hopt)
    have hlines' : r'.defaults.get? key = some (retold (new key) lines) := by rw [h.defaults, hlines]; rfl
    rw [append_default hsect hopt hkey,
      append_default (h.sectname.trans hsect) (h.optname.trans hopt) hkey, Dict.getD, Dict.getD, hlines, hlines']
    refine ⟨{ h with defaults := fun other => ?_ }, h.optname, h.indentLevel⟩
    show (r'.defaults.set key _).get? other = edited new inserted other ((r.defaults.set key _).get? other)
    rw [Dict.get?_set, Dict.get?_set]
    split
    · rename_i heq
      subst heq
      exact congrArg some (retold_append (hr.lines _ lines hlines) text).symm
    · exact h.defaults other
  · rw [append_section hsect hdefault hopt hkey,
      append_section (h.sectname.trans hsect) hdefault (h.optname.trans hopt) hkey, h.sections]
    exact ⟨{ h with sections := rfl }, h.optname, h.indentLevel⟩

variable {sectname : String}

/-- After a header no option is open in either text. -/
theorem FollowsText.openSection (h : FollowsText new inserted r r') (hindent : r'.indentLevel = r.indentLevel)
    (hopen : r.openSection sectname = .ok r₁) :
    ∃ r₁', r'.openSection sectname = .ok r₁' ∧ Follows new inserted r₁ r₁' := by
  unfold Reading.openSection at hopen ⊢
  rw [h.sections, h.addedSections]
  split at hopen
  · rename_i hknown
    rw [if_pos hknown]
    split at hopen
    · cases hopen
    · rename_i hfresh
      cases hopen
      rw [if_neg hfresh]
      exact ⟨_, rfl, { h with sectname := rfl, sections := rfl, addedSections := rfl }, rfl, hindent⟩
  · rename_i hnew
    rw [if_neg hnew]
    split at hopen
    · rename_i hdefault
      cases hopen
      rw [if_pos hdefault]
      exact ⟨_, rfl, { h with sectname := rfl, sections := rfl, addedSections := rfl }, rfl, hindent⟩
    · rename_i hdefault
      cases hopen
      rw [if_neg hdefault]
      exact ⟨_, rfl, { h with sectname := rfl, sections := rfl, addedSections := rfl }, rfl, hindent⟩

theorem FollowsText.withOption (h : FollowsText new inserted r r') (hindent : r'.indentLevel = r.indentLevel)
    {optname : String} (hkeep : sectname = defaultSection → new optname = none) (optval : String)
    (nameless : Bool) :
    Follows new inserted (r.withOption sectname optname optval nameless) (r'.withOption sectname optname optval nameless) := by
  have hadded : ∀ option, option ∈ (sectname, optname) :: r'.addedOptions ↔
      option ∈ (sectname, optname) :: r.addedOptions ∨ ∃ key ∈ inserted, option = (defaultSection, key) := by
    intro option
    rw [List.mem_cons, List.mem_cons, h.addedOptions, or_assoc]
  by_cases hdefault : sectname = defaultSection
  · subst hdefault
    rw [withOption_default, withOption_default]
    refine ⟨{ h with
      defaults := fun key => ?_
      addedOptions := hadded
      bogus := congrArg (· || nameless) h.bogus }, rfl, hindent⟩
    show (r'.defaults.set optname [optval]).get? key = edited new inserted key ((r.defaults.set optname [optval]).get? key)
    rw [Dict.get?_set, Dict.get?_set]
    split
    · rename_i heq
      rw [heq, edited, hkeep rfl]
      rfl
    · exact h.defaults key
  · rw [withOption_section hdefault, withOption_section hdefault, h.sections]
    exact ⟨{ h with
      sections := rfl
      addedOptions := hadded
      bogus := congrArg (· || nameless) h.bogus }, rfl, hindent⟩

variable {key value : String}

theorem FollowsText.withOption_given (h : FollowsText new inserted r r') (hindent : r'.indentLevel = r.indentLevel)
    (hgiven : new key = some value) (optval : String) :
    Follows new inserted (r.withOption defaultSection key optval false) (r'.withOption defaultSection key value false) := by
  rw [withOption_default, withOption_default]
  refine ⟨{ h with
    defaults := fun other => ?_
    addedOptions := fun option => ?_
    bogus := congrArg (· || false) h.bogus }, rfl, hindent⟩
  · show (r'.defaults.set key [value]).get? other = edited new inserted other ((r.defaults.set key [optval]).get? other)
    rw [Dict.get?_set, Dict.get?_set]
    split
    · rename_i heq
      rw [heq, edited, hgiven]
      rfl
    · exact h.defaults other
  · show option ∈ (defaultSection, key) :: r'.addedOptions ↔ option ∈ (defaultSection, key) :: r.addedOptions ∨ _
    rw [List.mem_cons, List.mem_cons, h.addedOptions, or_assoc]

theorem FollowsText.inserted_option (h : FollowsText new inserted r r')
    (hgiven : new key = some value) (hnew : r.defaults.get? key = none) :
    FollowsText new (key :: inserted) r (r'.withOption defaultSection key value false) := by
  rw [withOption_default]
  refine { h with
    defaults := fun other => ?_
    addedOptions := fun option => ?_
    bogus := (Bool.or_false _).trans h.bogus
    given := ?_ }
  · show (r'.defaults.set key [value]).get? other = edited new (key :: inserted) other (r.defaults.get? other)
    rw [Dict.get?_set]
    split
    · rename_i heq
      rw [heq, hnew, edited, if_pos List.mem_cons_self, hgiven]
      rfl
    · rename_i hne
      rw [h.defaults other]
      cases r.defaults.get? other with
      | some lines => rfl
      | none => simp [edited, hne]
  · show option ∈ (defaultSection, key) :: r'.addedOptions ↔ _
    rw [List.mem_cons, h.addedOptions]
    simp only [List.mem_cons, exists_eq_or_imp]
    tauto
  · intro other hother
    rcases List.mem_cons.mp hother with rfl | hother
    · rw [hgiven]
      rfl
    · exact h.given other hother

/-! ## One line -/

variable {optionxform : String → String}

/-- The line is an option with this name and value, unless it goes on with the value of another one. -/
structure OptionLine (line : List Char) (name optval : String) : Prop where
  comment : isComment (strip (String.ofList line)) = false
  nonblank : strip (String.ofList line) ≠ ""
  header : sectionHeader (strip (String.ofList line)).toList = none
  option : optionLine (strip (String.ofList line)).toList = some (name, optval)

theorem readLineAs_option {name optval : String} (h : OptionLine line name optval)
    (hcontinues : r.continues line = false) (hsect : r.sectname = some sectname)
    (hnew : (sectname, optionxform name) ∉ r.addedOptions) :
    r.readLineAs optionxform line =
      .ok ({ r with indentLevel := (line.takeWhile isSpace).length }.withOption sectname (optionxform name) optval
        (name = "")) := by
  unfold readLineAs
  dsimp only
  rw [h.comment, if_neg Bool.false_ne_true, if_neg h.nonblank, hcontinues, if_neg Bool.false_ne_true, readOptionAs,
    h.header, hsect]
  dsimp only
  rw [h.option]
  dsimp only
  rw [if_neg hnew]
  rfl

/-- A line that starts with none of the marks is no comment. -/
theorem not_comment {c : Char} {cs : List Char} (h : value.toList = c :: cs) (hhash : c ≠ '#')
    (hsemicolon : c ≠ ';') : isComment value = false ∧ value ≠ "" := by
  constructor
  · have hmark : ∀ mark : Char, c ≠ mark → ¬[mark] <+: c :: cs := by
      rintro mark hmark ⟨rest, hrest⟩
      exact hmark (List.cons.inj hrest).1.symm
    simp [isComment, h, hmark _ hhash, hmark _ hsemicolon]
  · rintro rfl
    nomatch h

theorem readLineAs_rest (hcomment : isComment (strip (String.ofList line)) = false)
    (hblank : strip (String.ofList line) ≠ "") (hcontinues : r.continues line = false) :
    r.readLineAs optionxform line =
      { r with indentLevel := (line.takeWhile isSpace).length }.readOptionAs optionxform (strip (String.ofList line)) := by
  unfold readLineAs
  dsimp only
  rw [hcomment, if_neg Bool.false_ne_true, if_neg hblank, hcontinues, if_neg Bool.false_ne_true]

theorem readOptionAs_header (hheader : sectionHeader value.toList = some sectname) :
    r.readOptionAs optionxform value = r.openSection sectname := by
  rw [readOptionAs, hheader]

theorem readOptionAs_bogus (hheader : sectionHeader value.toList = none)
    (hsect : r.sectname = some sectname) (hoption : optionLine value.toList = none) :
    r.readOptionAs optionxform value = .ok { r with bogus := true } := by
  rw [readOptionAs, hheader, hsect]
  dsimp only
  rw [hoption]

theorem append_none (hr : r.Sound) (h : r.defaults.get? key = none) (text : String) :
    (r.append text).defaults.get? key = none := by
  rcases r.open_cases with hclosed | ⟨other, hsect, hopt, hother⟩ | ⟨sectname, other, hsect, hdefault, hopt, hother⟩
  · rwa [append_closed hclosed]
  · rw [append_default hsect hopt hother]
    show (r.defaults.set other _).get? key = none
    rw [Dict.get?_set_ne]
    · exact h
    · rintro rfl
      have hopened := hr.opened key hsect hopt
      rw [h] at hopened
      nomatch hopened
  · rw [append_section hsect hdefault hopt hother]
    exact h

/-- What a line does that is neither blank nor a comment nor a continuation. -/
theorem readLineAs_cases (h : r.readLineAs optionxform line = .ok r₁) :
    (r₁ = r ∧ isComment (strip (String.ofList line)) = true) ∨
      (∃ text, r₁ = r.append text ∧ isComment (strip (String.ofList line)) = false ∧
        ((strip (String.ofList line) = "" ∧ text = "") ∨
          (strip (String.ofList line) ≠ "" ∧ r.continues line = true ∧ text = strip (String.ofList line)))) ∨
      (isComment (strip (String.ofList line)) = false ∧ strip (String.ofList line) ≠ "" ∧ r.continues line = false ∧
        { r with indentLevel := (line.takeWhile isSpace).length }.readOptionAs optionxform (strip (String.ofList line)) =
          .ok r₁) := by
  unfold readLineAs at h
  dsimp only at h
  split at h
  · rename_i hcomment
    cases h
    exact .inl ⟨rfl, hcomment⟩
  · rename_i hcomment
    have hcomment := Bool.eq_false_iff.mpr hcomment
    split at h
    · rename_i hblank
      cases h
      exact .inr (.inl ⟨"", rfl, hcomment, .inl ⟨hblank, rfl⟩⟩)
    · rename_i hblank
      split at h
      · rename_i hcontinues
        cases h
        exact .inr (.inl ⟨_, rfl, hcomment, .inr ⟨hblank, hcontinues, rfl⟩⟩)
      · rename_i hcontinues
        exact .inr (.inr ⟨hcomment, hblank, Bool.eq_false_iff.mpr hcontinues, h⟩)

theorem option_of_added (hr : r.Sound) (h : r.readLineAs optionxform line = .ok r₁)
    (hbefore : r.defaults.get? key = none) (hafter : r₁.defaults.get? key ≠ none) :
    ∃ name optval, OptionLine line name optval ∧ r.continues line = false ∧ r.sectname = some defaultSection ∧
      optionxform name = key ∧ (defaultSection, key) ∉ r.addedOptions ∧
        r₁ = { r with indentLevel := (line.takeWhile isSpace).length }.withOption defaultSection key optval (name = "") := by
  rcases readLineAs_cases h with ⟨rfl, -⟩ | ⟨text, rfl, -, -⟩ | ⟨hcomment, hblank, hcontinues, hread⟩
  · exact absurd hbefore hafter
  · exact absurd (append_none hr hbefore text) hafter
  · rcases readOptionAs_cases hread with ⟨sectname, -, hopen⟩ | ⟨sectname, hheader, hsect, hother⟩
    · rw [(openSection_keeps hopen).1] at hafter
      exact absurd hbefore hafter
    · rcases hother with ⟨-, rfl⟩ | ⟨name, optval, hoption, hnew, rfl⟩
      · exact absurd hbefore hafter
      · by_cases hdefault : sectname = defaultSection
        · subst hdefault
          rw [withOption_default] at hafter
          have hkey : optionxform name = key := by
            by_contra hne
            refine hafter ?_
            show (r.defaults.set (optionxform name) [optval]).get? key = none
            rw [Dict.get?_set_ne _ _ (Ne.symm hne)]
            exact hbefore
          subst hkey
          exact ⟨name, optval, ⟨hcomment, hblank, hheader, hoption⟩, hcontinues, hsect, rfl, hnew, rfl⟩
        · rw [withOption_section hdefault] at hafter
          exact absurd hbefore hafter

theorem Follows.continues (h : Follows new inserted r r') (line : List Char) : r'.continues line = r.continues line := by
  rw [Reading.continues, Reading.continues, h.optname, h.indentLevel]

/-- Setting the indentation keeps the relation of the texts. -/
theorem FollowsText.indented (h : FollowsText new inserted r r') (indent : Nat) :
    FollowsText new inserted { r with indentLevel := indent } { r' with indentLevel := indent } :=
  { h with }

/-- A line that both texts have and that adds none of the options with new values. -/
theorem Follows.kept_line (h : Follows new inserted r r') (hr : r.Sound) (hread : r.readLineAs optionxform line = .ok r₁)
    (hkeep : ∀ key, (new key).isSome → r.defaults.get? key = none → r₁.defaults.get? key = none) :
    ∃ r₁', r'.readLineAs optionxform line = .ok r₁' ∧ Follows new inserted r₁ r₁' := by
  rcases readLineAs_cases hread with ⟨rfl, hcomment⟩ | ⟨text, rfl, hcomment, htext⟩ | ⟨hcomment, hblank, hcontinues, hread⟩
  · refine ⟨r', ?_, h⟩
    unfold readLineAs
    dsimp only
    rw [if_pos hcomment]
  · refine ⟨r'.append text, ?_, h.append hr text⟩
    unfold readLineAs
    dsimp only
    rw [hcomment, if_neg Bool.false_ne_true]
    rcases htext with ⟨hblank, rfl⟩ | ⟨hblank, hcontinues, rfl⟩
    · rw [if_pos hblank]
    · rw [if_neg hblank, h.continues, if_pos hcontinues]
  · have hcontinues' : r'.continues line = false := (h.continues line).trans hcontinues
    have hindented := h.toFollowsText.indented (line.takeWhile isSpace).length
    rcases readOptionAs_cases hread with ⟨sectname, hheader, hopen⟩ | ⟨sectname, hheader, hsect, hother⟩
    · rw [readLineAs_rest hcomment hblank hcontinues', readOptionAs_header hheader]
      exact hindented.openSection rfl hopen
    · have hsect' := h.sectname.trans hsect
      rcases hother with ⟨hoption, rfl⟩ | ⟨name, optval, hoption, hnew, rfl⟩
      · rw [readLineAs_rest hcomment hblank hcontinues', readOptionAs_bogus hheader (hindented.sectname.trans hsect) hoption]
        exact ⟨_, rfl, { hindented with bogus := rfl }, h.optname, rfl⟩
      · -- the option is none of those with new values, as they are added elsewhere
        have hplain : sectname = defaultSection → new (optionxform name) = none := by
          rintro rfl
          by_contra hgiven
          have hnone : r.defaults.get? (optionxform name) = none := by
            rw [← Option.not_isSome_iff_eq_none, ← hr.added]
            exact hnew
          have hadded := hkeep _ (Option.isSome_iff_ne_none.mpr hgiven) hnone
          rw [withOption_default] at hadded
          nomatch (Dict.get?_set_self _ _ _).symm.trans hadded
        have hnew' : (sectname, optionxform name) ∉ r'.addedOptions := by
          rw [h.addedOptions]
          rintro (hold | ⟨key, hkey, heq⟩)
          · exact hnew hold
          · obtain ⟨rfl, rfl⟩ := Prod.mk.inj heq
            have hgiven := h.given _ hkey
            rw [hplain rfl] at hgiven
            nomatch hgiven
        exact ⟨_, readLineAs_option ⟨hcomment, hblank, hheader, hoption⟩ hcontinues' hsect' hnew',
          hindented.withOption rfl hplain optval _⟩

theorem Follows.replaced_line (h : Follows new inserted r r') (hr : r.Sound) {line' : List Char} {name optval : String}
    (hoption : OptionLine line name optval) (hread : r.readLineAs optionxform line = .ok r₁)
    (hgiven : new key = some value) (hbefore : r.defaults.get? key = none) (hafter : r₁.defaults.get? key ≠ none)
    (hname : name ≠ "") (hfresh : key ∉ inserted) {name' : String} (hoption' : OptionLine line' name' value)
    (hname' : name' ≠ "") (hkey' : optionxform name' = optionxform name)
    (hindent : (line'.takeWhile isSpace).length = (line.takeWhile isSpace).length) :
    ∃ r₁', r'.readLineAs optionxform line' = .ok r₁' ∧ Follows new inserted r₁ r₁' := by
  obtain ⟨other, otherval, hother, hcontinues, hsect, hkey, hnew, rfl⟩ := option_of_added hr hread hbefore hafter
  obtain ⟨rfl, rfl⟩ : name = other ∧ optval = otherval := by
    simpa using hoption.option.symm.trans hother.option
  have hcontinues' : r'.continues line' = false := by
    rw [← hcontinues, ← h.continues]
    unfold Reading.continues
    rw [hindent]
  have hnew' : (defaultSection, optionxform name') ∉ r'.addedOptions := by
    rw [hkey', hkey, h.addedOptions]
    rintro (hold | ⟨k, hk, heq⟩)
    · exact hnew hold
    · exact hfresh ((Prod.mk.inj heq).2 ▸ hk)
  refine ⟨_, readLineAs_option hoption' hcontinues' (h.sectname.trans hsect) hnew', ?_⟩
  rw [hkey', hkey, hindent, decide_eq_false hname, decide_eq_false hname']
  exact (h.toFollowsText.indented _).withOption_given rfl hgiven optval

theorem FollowsText.inserted_line (h : FollowsText new inserted r r') (hr : r.Sound) (hsect : r.sectname = some defaultSection)
    (hoption : OptionLine line key value) (hkey : key ≠ "") (hindent : line.takeWhile isSpace = [])
    (hgiven : new (optionxform key) = some value) (hnew : r.defaults.get? (optionxform key) = none)
    (hfresh : optionxform key ∉ inserted) :
    ∃ r₁', r'.readLineAs optionxform line = .ok r₁' ∧ FollowsText new (optionxform key :: inserted) r r₁' := by
  have hcontinues : r'.continues line = false := by
    unfold Reading.continues
    rw [hindent]
    simp
  have hnew' : (defaultSection, optionxform key) ∉ r'.addedOptions := by
    rw [h.addedOptions]
    rintro (hold | ⟨k, hk, heq⟩)
    · rw [hr.added, hnew] at hold
      nomatch hold
    · exact hfresh ((Prod.mk.inj heq).2 ▸ hk)
  refine ⟨_, readLineAs_option hoption hcontinues (h.sectname.trans hsect) hnew', ?_⟩
  rw [decide_eq_false hkey]
  have hindented : FollowsText new inserted r { r' with indentLevel := (line.takeWhile isSpace).length } := { h with }
  exact hindented.inserted_option hgiven hnew

/-- The line is a section header without indentation. -/
def opensSection (line : List Char) : Bool :=
  line.head? == some '[' && (sectionHeader (strip (String.ofList line)).toList).isSome

theorem FollowsText.header_line (h : FollowsText new inserted r r') (hline : opensSection line = true)
    (hread : r.readLineAs optionxform line = .ok r₁) :
    ∃ r₁', r'.readLineAs optionxform line = .ok r₁' ∧ Follows new inserted r₁ r₁' := by
  obtain ⟨hfirst, hheader⟩ := Bool.and_eq_true_iff.mp hline
  obtain ⟨sectname, hheader⟩ := Option.isSome_iff_exists.mp hheader
  have hindent : line.takeWhile isSpace = [] := by
    cases line with
    | nil => rfl
    | cons c cs =>
      obtain rfl : c = '[' := by simpa using hfirst
      rfl
  have hcontinues : ∀ r : Reading, r.continues line = false := by
    intro r
    unfold Reading.continues
    rw [hindent]
    simp
  have hbracket : ∃ rest, (strip (String.ofList line)).toList = '[' :: rest := by
    unfold sectionHeader at hheader
    split at hheader
    · exact ⟨_, by assumption⟩
    · nomatch hheader
  obtain ⟨rest, hrest⟩ := hbracket
  obtain ⟨hcomment, hblank⟩ := not_comment hrest (by decide) (by decide)
  rw [readLineAs_rest hcomment hblank (hcontinues _), readOptionAs_header hheader] at hread ⊢
  exact (h.indented _).openSection rfl hread

/-! ## Several lines -/

theorem addedOptions_append (r : Reading) (text : String) : (r.append text).addedOptions = r.addedOptions := by
  rcases r.open_cases with hclosed | ⟨key, hsect, hopt, hkey⟩ | ⟨sectname, key, hsect, hdefault, hopt, hkey⟩
  · rw [append_closed hclosed]
  · rw [append_default hsect hopt hkey]
  · rw [append_section hsect hdefault hopt hkey]

theorem addedOptions_subset (h : r.readLineAs optionxform line = .ok r₁) : r.addedOptions ⊆ r₁.addedOptions := by
  rcases readLineAs_cases h with ⟨rfl, -⟩ | ⟨text, rfl, -, -⟩ | ⟨-, -, -, hread⟩
  · exact List.Subset.refl _
  · rw [addedOptions_append]
    exact List.Subset.refl _
  · rcases readOptionAs_cases hread with ⟨sectname, -, hopen⟩ | ⟨sectname, -, -, hother⟩
    · rw [(openSection_keeps hopen).2.1]
      exact List.Subset.refl _
    · rcases hother with ⟨-, rfl⟩ | ⟨name, optval, -, -, rfl⟩
      · exact List.Subset.refl _
      · exact List.subset_cons_self _ _

variable (optionxform) in
/-- Reading some lines. -/
def readLines (r : Reading) (lines : List (List Char)) : Except IniError Reading :=
  lines.foldlM (readLineAs optionxform) r

variable {lines : List (List Char)}

theorem readLines_cons_ok (h : r.readLines optionxform (line :: lines) = .ok r₁) :
    ∃ next, r.readLineAs optionxform line = .ok next ∧ next.readLines optionxform lines = .ok r₁ := by
  rw [readLines, List.foldlM_cons] at h
  exact bind_eq_ok.mp h

theorem readLines_cons {next : Reading} (h : r.readLineAs optionxform line = .ok next) :
    r.readLines optionxform (line :: lines) = next.readLines optionxform lines := by
  rw [readLines, List.foldlM_cons, h]
  rfl

theorem readLines_append_ok {before after : List (List Char)} (h : r.readLines optionxform (before ++ after) = .ok r₁) :
    ∃ next, r.readLines optionxform before = .ok next ∧ next.readLines optionxform after = .ok r₁ := by
  rw [readLines, List.foldlM_append] at h
  exact bind_eq_ok.mp h

theorem readLines_append {before after : List (List Char)} {next : Reading}
    (h : r.readLines optionxform before = .ok next) :
    r.readLines optionxform (before ++ after) = next.readLines optionxform after := by
  rw [readLines, List.foldlM_append, ← readLines, h]
  rfl

theorem Sound.readLines (hr : r.Sound) (h : r.readLines optionxform lines = .ok r₁) : r₁.Sound :=
  foldlM_keeps (fun _ _ _ _ hacc hline => hacc.readLineAs hline) hr h

theorem addedOptions_readLines (h : r.readLines optionxform lines = .ok r₁) :
    r.addedOptions ⊆ r₁.addedOptions :=
  foldlM_keeps (fun _ _ _ _ hacc hline => List.Subset.trans hacc (addedOptions_subset hline)) (List.Subset.refl _) h

/-- An option of the default section that was not added in the end was not there before. -/
theorem Sound.none_before (hr : r.Sound) (h : r.readLines optionxform lines = .ok r₁)
    (hnone : r₁.defaults.get? key = none) : r.defaults.get? key = none := by
  rw [← Option.not_isSome_iff_eq_none, ← (hr.readLines h).added] at hnone
  rw [← Option.not_isSome_iff_eq_none, ← hr.added]
  exact fun hmem => hnone (addedOptions_readLines h hmem)

/-- Lines that both texts have and that add none of the options with new values. -/
theorem Follows.kept_lines (h : Follows new inserted r r') (hr : r.Sound)
    (hread : r.readLines optionxform lines = .ok r₁)
    (hkeep : ∀ key, (new key).isSome → r.defaults.get? key = none → r₁.defaults.get? key = none) :
    ∃ r₁', r'.readLines optionxform lines = .ok r₁' ∧ Follows new inserted r₁ r₁' := by
  induction lines generalizing r r' with
  | nil =>
    cases hread
    exact ⟨r', rfl, h⟩
  | cons line lines ih =>
    obtain ⟨next, hline, hlines⟩ := readLines_cons_ok hread
    have hnext := hr.readLineAs hline
    have hline₁ : r.readLines optionxform [line] = .ok next := (readLines_cons hline).trans rfl
    obtain ⟨next', hline', hfollows⟩ := h.kept_line hr hline fun key hgiven hnone =>
      hnext.none_before hlines (hkeep key hgiven hnone)
    obtain ⟨r₁', hlines', hfollows⟩ := ih hfollows hnext hlines fun key hgiven hnone =>
      hkeep key hgiven (hr.none_before hline₁ hnone)
    exact ⟨r₁', (readLines_cons hline').trans hlines', hfollows⟩

/-- What may become of a piece of the text: it is kept and adds no option with a new value, or it is the line of such an
option and is replaced by another one. -/
inductive ChunkEdit (optionxform : String → String) (new : String → Option String) (r r₁ : Reading) (chunk : List Char) :
    List Char → Prop
  | kept (hkeep : ∀ key, (new key).isSome → r.defaults.get? key = none → r₁.defaults.get? key = none) :
      ChunkEdit optionxform new r r₁ chunk chunk
  | replaced {chunk' : List Char} {key name optval value name' : String} (hone : linesOf chunk = [chunk])
      (hone' : linesOf chunk' = [chunk']) (hoption : OptionLine chunk name optval) (hoption' : OptionLine chunk' name' value)
      (hname : name ≠ "") (hname' : name' ≠ "") (hkey : optionxform name' = optionxform name)
      (hindent : (chunk'.takeWhile isSpace).length = (chunk.takeWhile isSpace).length) (hgiven : new key = some value)
      (hbefore : r.defaults.get? key = none) (hafter : r₁.defaults.get? key ≠ none) :
      ChunkEdit optionxform new r r₁ chunk chunk'

/-- Pieces of the text that are kept or replaced. -/
theorem Follows.edited_chunks {chunks : List (List Char)} {edit : List Char → List Char} (h : Follows new [] r r')
    (hr : r.Sound) (hread : r.readLines optionxform (chunks.flatMap linesOf) = .ok r₁)
    (hedit : ∀ earlier chunk later, chunks = earlier ++ chunk :: later → ∀ before after,
      r.readLines optionxform (earlier.flatMap linesOf) = .ok before →
        before.readLines optionxform (linesOf chunk) = .ok after →
          ChunkEdit optionxform new before after chunk (edit chunk)) :
    ∃ r₁', r'.readLines optionxform ((chunks.map edit).flatMap linesOf) = .ok r₁' ∧ Follows new [] r₁ r₁' := by
  induction chunks generalizing r r' with
  | nil =>
    cases hread
    exact ⟨r', rfl, h⟩
  | cons chunk chunks ih =>
    rw [List.flatMap_cons] at hread
    obtain ⟨next, hchunk, hchunks⟩ := readLines_append_ok hread
    have hnext := hr.readLines hchunk
    have hfirst : ∃ next', r'.readLines optionxform (linesOf (edit chunk)) = .ok next' ∧ Follows new [] next next' := by
      have hedit := hedit [] chunk chunks rfl r next rfl hchunk
      generalize edit chunk = chunk' at hedit
      cases hedit with
      | kept hkeep => exact h.kept_lines hr hchunk hkeep
      | replaced hone hone' hoption hoption' hname hname' hkey hindent hgiven hbefore hafter =>
        rw [hone] at hchunk
        obtain ⟨only, hline, hnil⟩ := readLines_cons_ok hchunk
        cases hnil
        obtain ⟨next', hline', hfollows⟩ := h.replaced_line hr hoption hline hgiven hbefore hafter hname nofun hoption'
          hname' hkey hindent
        rw [hone']
        exact ⟨next', (readLines_cons hline').trans rfl, hfollows⟩
    obtain ⟨next', hchunk', hfollows⟩ := hfirst
    obtain ⟨r₁', hchunks', hfollows⟩ := ih hfollows hnext hchunks
      fun earlier other later hsplit before after hearlier hother => by
        refine hedit (chunk :: earlier) other later (by rw [hsplit]; rfl) before after ?_ hother
        rw [List.flatMap_cons, readLines_append hchunk]
        exact hearlier
    refine ⟨r₁', ?_, hfollows⟩
    rw [List.map_cons, List.flatMap_cons, readLines_append hchunk']
    exact hchunks'

end Reading

end ConfigParser

end VenusEvcharger
