import VenusEvcharger.Python.ConfigEdit

/-!
# Options replaced and inserted in a configuration

`readTextAs_edited`: a text in which lines of the default section are replaced and others inserted before a section header
is read as the configuration with the new values.
-/

namespace VenusEvcharger

open Library

namespace ConfigParser

namespace Reading

variable {optionxform : String → String} {new : String → Option String} {inserted : List String}
  {r r' r₁ : Reading}

/-! ## Inserted lines -/

/-- The line gives an option its new value. -/
structure Insertion (optionxform : String → String) (new : String → Option String) (item : String × String)
    (line : List Char) : Prop where
  one : linesOf line = [line]
  option : OptionLine line item.1 item.2
  named : item.1 ≠ ""
  unindented : line.takeWhile isSpace = []
  given : new (optionxform item.1) = some item.2

theorem FollowsText.inserted_lines {insertions : List (String × String)} {lineOf : String × String → List Char}
    (h : FollowsText new inserted r r') (hr : r.Sound) (hsect : r.sectname = some defaultSection)
    (hlines : ∀ option ∈ insertions, Insertion optionxform new option (lineOf option))
    (habsent : ∀ option ∈ insertions, r.defaults.get? (optionxform option.1) = none)
    (hnodup : (insertions.map fun option => optionxform option.1).Nodup)
    (hfresh : ∀ option ∈ insertions, optionxform option.1 ∉ inserted) :
    ∃ r₁' inserted', r'.readLines optionxform ((insertions.map lineOf).flatMap linesOf) = .ok r₁' ∧
      FollowsText new inserted' r r₁' ∧
        ∀ key, key ∈ inserted' ↔ key ∈ inserted ∨ ∃ option ∈ insertions, optionxform option.1 = key := by
  induction insertions generalizing r' inserted with
  | nil => exact ⟨r', inserted, rfl, h, by simp⟩
  | cons option insertions ih =>
    obtain ⟨hone, hoption, hnamed, hunindented, hgiven⟩ := hlines option List.mem_cons_self
    rw [List.map_cons, List.nodup_cons] at hnodup
    obtain ⟨next', hline', hfollows⟩ := h.inserted_line hr hsect hoption hnamed hunindented hgiven
      (habsent option List.mem_cons_self) (hfresh option List.mem_cons_self)
    obtain ⟨r₁', inserted', hlines', hfollows, hmem⟩ := ih hfollows
      (fun other hother => hlines other (List.mem_cons_of_mem _ hother))
      (fun other hother => habsent other (List.mem_cons_of_mem _ hother)) hnodup.2
      (fun other hother hmem => by
        rcases List.mem_cons.mp hmem with heq | hmem
        · exact hnodup.1 (heq ▸ List.mem_map.mpr ⟨other, hother, rfl⟩)
        · exact hfresh other (List.mem_cons_of_mem _ hother) hmem)
    refine ⟨r₁', inserted', ?_, hfollows, fun key => ?_⟩
    · rw [List.map_cons, List.flatMap_cons, hone, List.singleton_append, readLines_cons hline']
      exact hlines'
    · rw [hmem key, List.mem_cons, List.exists_mem_cons_iff, @eq_comm _ key, or_assoc, or_left_comm]

/-! ## The values after reading -/

/-- The value of an option from its lines. -/
def joinText (lines : List String) : String :=
  String.ofList (("\n".intercalate lines).toList.reverse.dropWhile isSpace).reverse

theorem get?_joined (options : Dict String (List String)) (key : String) :
    (joined options).get? key = (options.get? key).map joinText := Dict.get?_mapVal ..

theorem toList_intercalate_newline (line : String) (more : List String) :
    ("\n".intercalate (line :: more)).toList = line.toList ++ more.flatMap fun text => '\n' :: text.toList := by
  induction more generalizing line with
  | nil => simp
  | cons text more ih =>
    rw [String.intercalate_cons_cons, String.toList_append, ih, String.toList_append, List.flatMap_cons]
    simp

theorem blank_of_single {line : String} {more : List String} (h : '\n' ∉ (joinText (line :: more)).toList) :
    ∀ c ∈ more.flatMap fun text => '\n' :: text.toList, isSpace c = true := by
  rw [joinText, String.toList_ofList, ← List.rdropWhile, toList_intercalate_newline] at h
  cases more with
  | nil => exact nofun
  | cons text more =>
    rw [List.flatMap_cons] at h ⊢
    by_contra hblank
    refine h ?_
    have hrest : ((text.toList ++ more.flatMap fun text => '\n' :: text.toList).reverse.dropWhile isSpace).isEmpty =
        false := by
      rw [List.isEmpty_eq_false_iff, ne_eq, List.dropWhile_eq_nil_iff]
      intro hall
      refine hblank fun c hc => ?_
      rcases List.mem_cons.mp hc with rfl | hc
      · decide
      · exact hall c (List.mem_reverse.mpr hc)
    rw [List.rdropWhile, List.mem_reverse, List.cons_append, List.reverse_append, List.reverse_cons, List.append_assoc,
      List.dropWhile_append, hrest]
    simp

theorem joinText_of_blank {value : String} (hvalue : Trimmed value) {more : List String}
    (h : ∀ c ∈ more.flatMap fun text => '\n' :: text.toList, isSpace c = true) : joinText (value :: more) = value := by
  have hstrip : value.toList.rdropWhile isSpace = value.toList := by
    rw [List.rdropWhile_eq_self_iff]
    intro hne
    exact hvalue.2 _ (by rw [List.getLast?_eq_some_getLast hne]; rfl)
  rw [joinText, toList_intercalate_newline, List.reverse_append,
    List.dropWhile_append_of_pos fun c hc => h c (List.mem_reverse.mp hc), ← List.rdropWhile, hstrip, String.ofList_toList]

theorem finish_ok {c : ConfigParser} (h : r.finish = .ok c) :
    r.bogus = false ∧ c.sections = r.sections.mapVal (fun _ options => joined options) ∧
      ∀ key, c.defaults.get? key = (r.defaults.get? key).map joinText := by
  unfold finish at h
  split at h
  · cases h
  · rename_i hbogus
    cases h
    exact ⟨Bool.eq_false_iff.mpr hbogus, rfl, get?_joined _⟩

/-- What the edited text is read as. -/
theorem FollowsText.finish (h : FollowsText new inserted r r') (hr : r.Sound) {c : ConfigParser} (hfinish : r.finish = .ok c)
    (hsingle : ∀ key, (new key).isSome → ∀ old ∈ c.defaults.get? key, '\n' ∉ old.toList)
    (hvalues : ∀ key, ∀ value ∈ new key, Trimmed value) :
    ∃ c', r'.finish = .ok c' ∧ c'.sections = c.sections ∧
      ∀ key, c'.defaults.get? key =
        match new key with
        | none => c.defaults.get? key
        | some value => if (c.defaults.get? key).isSome ∨ key ∈ inserted then some value else none := by
  obtain ⟨hbogus, hsections, hdefaults⟩ := finish_ok hfinish
  have hfinish' : r'.finish =
      .ok ⟨joined r'.defaults, r'.sections.mapVal fun _ options => joined options⟩ := by
    rw [Reading.finish, h.bogus, hbogus]
    rfl
  refine ⟨_, hfinish', ?_, fun key => ?_⟩
  · rw [hsections, ← h.sections]
  · show (joined r'.defaults).get? key = _
    rw [get?_joined, h.defaults key]
    cases hnew : new key with
    | none =>
      dsimp only
      rw [hdefaults key]
      cases r.defaults.get? key with
      | none => simp [edited, hnew]
      | some lines => simp [edited, hnew, retold]
    | some value =>
      dsimp only
      have hvalue := hvalues key value hnew
      cases hlines : r.defaults.get? key with
      | none =>
        have hone : joinText [value] = value := joinText_of_blank hvalue (List.forall_mem_nil _)
        rw [hdefaults key, hlines, edited, hnew]
        by_cases hinserted : key ∈ inserted <;> simp [hinserted, hone]
      | some lines =>
        have hold := hdefaults key
        rw [hlines] at hold
        obtain ⟨line, more, rfl⟩ := List.exists_cons_of_ne_nil (hr.lines key lines hlines)
        have hblank := blank_of_single (hsingle key (by rw [hnew]; rfl) _ hold)
        rw [hold, edited, hnew]
        simp [retold, joinText_of_blank hvalue hblank]

/-! ## The edited text -/

/-- An edit of the pieces `before ++ after` of a text: those before are kept or replaced, lines are inserted, and those
after are kept. -/
structure EditPlan (optionxform : String → String) (new : String → Option String) (before after : List (List Char))
    (edit : List Char → List Char) (insertions : List (String × String)) (lineOf : String × String → List Char) : Prop where
  edited : ∀ earlier chunk later, before = earlier ++ chunk :: later → ∀ r r₁,
    start.readLines optionxform (earlier.flatMap linesOf) = .ok r → r.readLines optionxform (linesOf chunk) = .ok r₁ →
      ChunkEdit optionxform new r r₁ chunk (edit chunk)
  kept : ∀ r r₁, start.readLines optionxform (before.flatMap linesOf) = .ok r →
    r.readLines optionxform (after.flatMap linesOf) = .ok r₁ →
      ∀ key, (new key).isSome → r.defaults.get? key = none → r₁.defaults.get? key = none
  inserted : ∀ item ∈ insertions, Insertion optionxform new item (lineOf item)
  distinct : (insertions.map fun item => optionxform item.1).Nodup
  place : insertions ≠ [] →
    (∀ r, start.readLines optionxform (before.flatMap linesOf) = .ok r → r.sectname = some defaultSection) ∧
      ∀ first more, after.flatMap linesOf = first :: more → opensSection first = true
  values : ∀ key, ∀ value ∈ new key, Trimmed value

variable {before after : List (List Char)} {edit : List Char → List Char} {insertions : List (String × String)}
  {lineOf : String × String → List Char} {c : ConfigParser}

theorem readTextAs_joinedLines (chunks : List (List Char)) :
    readTextAs optionxform (joinedLines chunks) =
      (start.readLines optionxform (chunks.flatMap linesOf)).bind Reading.finish := by
  rw [readTextAs, splitLines_joinedLines]
  rfl

theorem EditPlan.read (plan : EditPlan optionxform new before after edit insertions lineOf)
    (hread : readTextAs optionxform (joinedLines (before ++ after)) = .ok c)
    (hsingle : ∀ key, (new key).isSome → ∀ old ∈ c.defaults.get? key, '\n' ∉ old.toList)
    (habsent : ∀ item ∈ insertions, c.defaults.get? (optionxform item.1) = none) :
    ∃ c', readTextAs optionxform (joinedLines (before.map edit ++ insertions.map lineOf ++ after)) = .ok c' ∧
      c'.sections = c.sections ∧ ∀ key, c'.defaults.get? key =
        match new key with
        | none => c.defaults.get? key
        | some value =>
          if (c.defaults.get? key).isSome ∨ ∃ item ∈ insertions, optionxform item.1 = key then some value else none := by
  rw [readTextAs_joinedLines, List.flatMap_append] at hread
  obtain ⟨last, hlines, hfinish⟩ := bind_eq_ok.mp hread
  obtain ⟨r, hbefore, hafter⟩ := readLines_append_ok hlines
  have hr := sound_start.readLines hbefore
  have hlast := hr.readLines hafter
  obtain ⟨-, -, hdefaults⟩ := finish_ok hfinish
  obtain ⟨r', hbefore', hfollows⟩ := (follows_start new).edited_chunks sound_start hbefore plan.edited
  have hmiddle : ∃ last' inserted', r'.readLines optionxform ((insertions.map lineOf).flatMap linesOf ++ after.flatMap linesOf) =
      .ok last' ∧ FollowsText new inserted' last last' ∧
        ∀ key, key ∈ inserted' ↔ ∃ item ∈ insertions, optionxform item.1 = key := by
    by_cases hempty : insertions = []
    · subst hempty
      obtain ⟨last', hafter', hfollows⟩ := hfollows.kept_lines hr hafter (plan.kept r last hbefore hafter)
      exact ⟨last', [], hafter', hfollows.toFollowsText, by simp⟩
    · obtain ⟨hsect, hheader⟩ := plan.place hempty
      have habsent : ∀ item ∈ insertions, r.defaults.get? (optionxform item.1) = none := fun item hitem => by
        refine hr.none_before hafter ?_
        have hnone := habsent item hitem
        rwa [hdefaults, Option.map_eq_none_iff] at hnone
      obtain ⟨next', inserted', hinsert', hfollows, hmem⟩ := hfollows.toFollowsText.inserted_lines hr (hsect r hbefore)
        plan.inserted habsent plan.distinct (fun _ _ => nofun)
      have hmem : ∀ key, key ∈ inserted' ↔ ∃ item ∈ insertions, optionxform item.1 = key := by simpa using hmem
      rw [readLines_append hinsert']
      cases hlines : after.flatMap linesOf with
      | nil =>
        rw [hlines] at hafter
        cases hafter
        exact ⟨next', inserted', rfl, hfollows, hmem⟩
      | cons first more =>
        rw [hlines] at hafter
        obtain ⟨next, hfirst, hmore⟩ := readLines_cons_ok hafter
        obtain ⟨after', hfirst', hfollows⟩ := hfollows.header_line (hheader first more hlines) hfirst
        have hkeep := plan.kept r last hbefore (by rw [hlines]; exact hafter)
        have hone : r.readLines optionxform [first] = .ok next := (readLines_cons hfirst).trans rfl
        obtain ⟨last', hmore', hfollows⟩ := hfollows.kept_lines (hr.readLineAs hfirst) hmore
          fun key hgiven hnone => hkeep key hgiven (hr.none_before hone hnone)
        exact ⟨last', inserted', (readLines_cons hfirst').trans hmore', hfollows.toFollowsText, hmem⟩
  obtain ⟨last', inserted', hlines', hfollows, hmem⟩ := hmiddle
  obtain ⟨c', hfinish', hsections, hnew⟩ := hfollows.finish hlast hfinish hsingle plan.values
  refine ⟨c', ?_, hsections, fun key => ?_⟩
  · rw [readTextAs_joinedLines, List.flatMap_append, List.flatMap_append, List.append_assoc, readLines_append hbefore',
      hlines']
    exact hfinish'
  · rw [hnew key]
    simp only [hmem]

/-! ## Comments -/

/-- The comment lines of a text. -/
def commentLines (text : List Char) : List (List Char) :=
  (splitLines text).filter fun line => isComment (strip (String.ofList line))

theorem EditPlan.comments (plan : EditPlan optionxform new before after edit insertions lineOf)
    (hread : readTextAs optionxform (joinedLines (before ++ after)) = .ok c) :
    commentLines (joinedLines (before.map edit ++ insertions.map lineOf ++ after)) =
      commentLines (joinedLines (before ++ after)) := by
  rw [readTextAs_joinedLines, List.flatMap_append] at hread
  obtain ⟨last, hlines, -⟩ := bind_eq_ok.mp hread
  obtain ⟨r, hbefore, -⟩ := readLines_append_ok hlines
  have hnone : ∀ {line : List Char} {name optval : String}, OptionLine line name optval →
      [line].filter (fun line => isComment (strip (String.ofList line))) = [] := by
    intro line name optval hoption
    rw [List.filter_cons, hoption.comment]
    rfl
  have hchunks : ∀ earlier chunks, before = earlier ++ chunks →
      ((chunks.map edit).flatMap linesOf).filter (fun line => isComment (strip (String.ofList line))) =
        (chunks.flatMap linesOf).filter (fun line => isComment (strip (String.ofList line))) := by
    intro earlier chunks
    induction chunks generalizing earlier with
    | nil => exact fun _ => rfl
    | cons chunk chunks ih =>
      intro hsplit
      have ih := ih (earlier ++ [chunk]) (by rw [hsplit]; simp)
      rw [List.map_cons, List.flatMap_cons, List.flatMap_cons, List.filter_append, List.filter_append, ih]
      have hread := hbefore
      rw [hsplit, List.flatMap_append, List.flatMap_cons] at hread
      obtain ⟨r₀, hearlier, hread⟩ := readLines_append_ok hread
      obtain ⟨r₁, hchunk, -⟩ := readLines_append_ok hread
      have hedit := plan.edited earlier chunk chunks hsplit r₀ r₁ hearlier hchunk
      generalize edit chunk = chunk' at hedit
      cases hedit with
      | kept => rfl
      | replaced hone hone' hoption hoption' => rw [hone, hone', hnone hoption, hnone hoption']
  have hinsertions : ((insertions.map lineOf).flatMap linesOf).filter
      (fun line => isComment (strip (String.ofList line))) = [] := by
    rw [List.filter_eq_nil_iff]
    intro line hline
    obtain ⟨chunk, hchunk, hline⟩ := List.mem_flatMap.mp hline
    obtain ⟨item, hitem, rfl⟩ := List.mem_map.mp hchunk
    have hinsertion := plan.inserted item hitem
    rw [hinsertion.one] at hline
    obtain rfl := List.mem_singleton.mp hline
    rw [hinsertion.option.comment]
    exact Bool.false_ne_true
  rw [commentLines, commentLines, splitLines_joinedLines, splitLines_joinedLines, List.flatMap_append, List.flatMap_append,
    List.flatMap_append, List.filter_append, List.filter_append, List.filter_append, hinsertions, List.append_nil,
    hchunks [] before rfl]

end Reading

end ConfigParser

end VenusEvcharger
