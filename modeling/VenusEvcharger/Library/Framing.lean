import Mathlib.Data.List.Infix

/-!
# Frames with a header

The size of a frame is known from a header of fixed length. `progress` says what a receiver may conclude from the
bytes so far, and `progress_of_begins` that a frame is recognized at its last byte and not before, so a receiver that
looks at its buffer after every chunk finds the same frame for all chunks.
-/

namespace Library

universe u v

/-- How the size of a frame is read from its first bytes. -/
structure Framing (β : Type u) (ε : Type v) where
  header : Nat
  limit : Nat
  /-- The size of the frame, and 0 while the header is not complete. -/
  size : List β → Except ε Nat
  header_pos : 0 < header
  header_le : header ≤ limit
  size_of_lt : ∀ {xs}, xs.length < header → size xs = .ok 0
  size_append : ∀ {xs} ys, header ≤ xs.length → size (xs ++ ys) = size xs
  size_le : ∀ {xs n}, header ≤ xs.length → size xs = .ok n → header ≤ n ∧ n ≤ limit

/-- What is known about the bytes so far. -/
inductive FrameProgress (ε : Type v) where
  | more
  | done
  | failed (error : ε)
  | overrun

namespace Framing

variable {β : Type u} {ε : Type v} (F : Framing β ε) {xs ys f : List β}

/-- A whole frame. -/
def IsFrame (f : List β) : Prop := F.header ≤ f.length ∧ F.size f = .ok f.length

/-- What the bytes so far amount to. -/
def progress (xs : List β) : FrameProgress ε :=
  match F.size xs with
  | .error e => .failed e
  | .ok n => if n = 0 then .more else if n < xs.length then .overrun else if xs.length = n then .done else .more

variable {F}

theorem IsFrame.size_of_begins (hf : F.IsFrame f) (hbegins : xs <+: f) (hlong : F.header ≤ xs.length) :
    F.size xs = .ok f.length := by
  obtain ⟨ys, rfl⟩ := hbegins
  rw [← F.size_append ys hlong]
  exact hf.2

/-- A receiver that waits for more bytes has not reached the limit. -/
theorem length_lt_of_more (h : F.progress xs = .more) : xs.length < F.limit := by
  by_cases hlong : F.header ≤ xs.length
  · unfold progress at h
    cases hsize : F.size xs with
    | error e =>
      rw [hsize] at h
      nomatch h
    | ok n =>
      rw [hsize] at h
      have hle := F.size_le hlong hsize
      have hpos := F.header_pos
      dsimp only at h
      split_ifs at h <;> omega
  · have := F.header_le
    omega

/-- A frame is not recognized before its last byte. -/
theorem progress_of_begins (hf : F.IsFrame f) (hbegins : xs <+: f) (hne : xs ≠ f) : F.progress xs = .more := by
  have hlt : xs.length < f.length :=
    Nat.lt_of_le_of_ne hbegins.length_le fun hlength => hne (hbegins.eq_of_length hlength)
  unfold progress
  by_cases hlong : F.header ≤ xs.length
  · rw [hf.size_of_begins hbegins hlong]
    dsimp only
    rw [if_neg (by omega), if_neg (by omega), if_neg (by omega)]
  · rw [F.size_of_lt (Nat.not_le.mp hlong)]
    rfl

end Framing

end Library
