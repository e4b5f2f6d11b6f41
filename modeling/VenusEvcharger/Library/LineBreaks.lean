import Mathlib.Data.List.Basic

/-!
# Splitting a text into lines

A text splitter is given by the characters that end a line; a carriage return with its line feed is one line break.
Lines that are put together with line feeds are split into the same lines again when none of them has a break of its own.
-/

namespace Library

/-- The lines of a text, of which the last one need not be ended. -/
def linesBy (isBreak : Char → Bool) : List Char → List (List Char)
  | [] => []
  | '\r' :: '\n' :: rest => [] :: linesBy isBreak rest
  | c :: rest =>
    if isBreak c then [] :: linesBy isBreak rest
    else
      match linesBy isBreak rest with
      | [] => [[c]]
      | line :: lines => (c :: line) :: lines

/-- The text of some lines, each of them ended. -/
def joinedLines (lines : List (List Char)) : List Char := lines.flatMap fun line => line ++ ['\n']

/-- The text is one line. -/
def OneLine (isBreak : Char → Bool) (line : List Char) : Prop :=
  (∀ c ∈ line, isBreak c = false) ∧ line.getLast? ≠ some '\r'

instance (isBreak : Char → Bool) (line : List Char) : Decidable (OneLine isBreak line) :=
  @instDecidableAnd _ _ (List.decidableBAll _ line) inferInstance

theorem intercalate_newline (line : List Char) (lines : List (List Char)) :
    ['\n'].intercalate (line :: lines) ++ ['\n'] = joinedLines (line :: lines) := by
  induction lines generalizing line with
  | nil => simp [joinedLines]
  | cons next lines ih =>
    rw [List.intercalate_cons_cons, List.append_assoc, ih]
    simp [joinedLines]

variable {isBreak : Char → Bool}

@[simp] theorem linesBy_crlf (rest : List Char) : linesBy isBreak ('\r' :: '\n' :: rest) = [] :: linesBy isBreak rest := rfl

/-- A character that does not start the break of two characters. -/
theorem linesBy_cons {c : Char} {rest : List Char} (h : ∀ more, c = '\r' → rest ≠ '\n' :: more) :
    linesBy isBreak (c :: rest) =
      if isBreak c then [] :: linesBy isBreak rest
      else
        match linesBy isBreak rest with
        | [] => [[c]]
        | line :: lines => (c :: line) :: lines := by
  rw [linesBy.eq_def]
  split
  · rename_i hnil
    nomatch hnil
  · rename_i more hcons
    obtain ⟨rfl, rfl⟩ := List.cons.inj hcons
    exact absurd rfl (h more rfl)
  · rename_i hcons
    obtain ⟨rfl, rfl⟩ := List.cons.inj hcons
    rfl

theorem linesBy_ne_nil {cs : List Char} (h : cs ≠ []) : linesBy isBreak cs ≠ [] := by
  unfold linesBy
  split
  · exact absurd rfl h
  · exact List.cons_ne_nil _ _
  · split
    · exact List.cons_ne_nil _ _
    · split <;> exact List.cons_ne_nil _ _

section

variable (hbreak : isBreak '\n' = true)
include hbreak

theorem linesBy_newline (rest : List Char) :
    linesBy isBreak ('\n' :: rest) = [] :: linesBy isBreak rest := by
  rw [linesBy_cons fun _ h => absurd h (by decide), if_pos hbreak]

/-- What follows a line feed is split on its own. -/
theorem linesBy_append_newline (cs rest : List Char) :
    linesBy isBreak (cs ++ '\n' :: rest) = linesBy isBreak (cs ++ ['\n']) ++ linesBy isBreak rest := by
  -- a carriage return with its line feed goes at once, so the induction is on the length
  induction hlength : cs.length using Nat.strongRecOn generalizing cs with
  | _ n ih =>
    cases cs with
    | nil =>
      rw [List.nil_append, List.nil_append, linesBy_newline hbreak, linesBy_newline hbreak]
      rfl
    | cons c cs =>
      by_cases hcrlf : ∃ more, c = '\r' ∧ cs = '\n' :: more
      · obtain ⟨more, rfl, rfl⟩ := hcrlf
        have ih := ih more.length (by rw [← hlength, List.length_cons, List.length_cons]; omega) more rfl
        rw [List.cons_append, List.cons_append, List.cons_append, List.cons_append, linesBy_crlf, linesBy_crlf, ih]
        rfl
      · have ih := ih cs.length (by rw [← hlength, List.length_cons]; omega) cs rfl
        cases cs with
        | nil =>
          by_cases hc : c = '\r'
          · subst hc
            rfl
          · rw [List.cons_append, List.cons_append, List.nil_append, List.nil_append,
              linesBy_cons fun _ h => absurd h hc, linesBy_cons fun _ h => absurd h hc,
              linesBy_newline hbreak, linesBy_newline hbreak]
            split <;> rfl
        | cons d cs =>
          have hother : ∀ tail more, c = '\r' → d :: cs ++ tail ≠ '\n' :: more := by
            intro tail more hc hd
            exact hcrlf ⟨cs, hc, by rw [(List.cons.inj hd).1]⟩
          obtain ⟨line, lines, hlines⟩ := List.exists_cons_of_ne_nil
            (@linesBy_ne_nil isBreak _ (List.cons_ne_nil d (cs ++ ['\n'])))
          rw [← List.cons_append] at hlines
          rw [List.cons_append (a := c), List.cons_append (a := c), linesBy_cons (hother _),
            linesBy_cons (hother _), ih, hlines]
          split <;> rfl

/-- One line is split into itself. -/
theorem linesBy_line {line : List Char} (hline : OneLine isBreak line) :
    linesBy isBreak (line ++ ['\n']) = [line] := by
  induction line with
  | nil => exact linesBy_newline hbreak []
  | cons c cs ih =>
    obtain ⟨hchars, hlast⟩ := hline
    have hc := hchars c List.mem_cons_self
    cases cs with
    | nil =>
      have hne : c ≠ '\r' := by simpa using hlast
      show linesBy isBreak (c :: ['\n']) = _
      rw [linesBy_cons fun _ h => absurd h hne, linesBy_newline hbreak, hc]
      rfl
    | cons d cs =>
      have hd : d ≠ '\n' := by
        rintro rfl
        exact absurd hbreak (by rw [hchars _ (List.mem_cons_of_mem _ List.mem_cons_self)]; decide)
      have hother : ∀ more, c = '\r' → d :: cs ++ ['\n'] ≠ '\n' :: more := fun _ _ h => hd (List.cons.inj h).1
      have ih := ih ⟨fun e he => hchars e (List.mem_cons_of_mem _ he), by simpa using hlast⟩
      rw [List.cons_append (a := c), linesBy_cons hother, hc, ih]
      rfl

/-- Lines that are put together are split into the lines of each. -/
theorem linesBy_joinedLines (lines : List (List Char)) :
    linesBy isBreak (joinedLines lines) = lines.flatMap fun line => linesBy isBreak (line ++ ['\n']) := by
  induction lines with
  | nil => rfl
  | cons line lines ih =>
    rw [joinedLines, List.flatMap_cons, List.append_assoc, List.singleton_append, linesBy_append_newline hbreak,
      List.flatMap_cons, ← ih]
    rfl

/-- Lines without breaks of their own are found again. -/
theorem linesBy_joinedLines_self {lines : List (List Char)}
    (hlines : ∀ line ∈ lines, OneLine isBreak line) : linesBy isBreak (joinedLines lines) = lines := by
  rw [linesBy_joinedLines hbreak]
  induction lines with
  | nil => rfl
  | cons line lines ih =>
    rw [List.flatMap_cons, linesBy_line hbreak (hlines line List.mem_cons_self),
      ih fun other hother => hlines other (List.mem_cons_of_mem _ hother)]
    rfl

end

end Library
