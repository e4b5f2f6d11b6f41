import Mathlib.Data.List.Forall2
import Mathlib.Data.List.Induction
import Mathlib.Tactic.Ring

/-!
# Readers of byte strings

A reader consumes a prefix of the bytes or fails. `Takes r S` says which words it takes for which value: `r` returns
`a` and leaves `rest` exactly when the bytes are a word of `S a` followed by `rest`. There is one rule for each way
to build a reader, so the words of a whole decoder follow from the words of its parts, and two decoders that are
written differently can be compared by their words.
-/

namespace Library

variable {ε α β : Type}

theorem bind_eq_ok {x : Except ε α} {f : α → Except ε β} {b : β} :
    x >>= f = .ok b ↔ ∃ a, x = .ok a ∧ f a = .ok b := by
  cases x with
  | error error => simp [bind, Except.bind]
  | ok a => simp [bind, Except.bind]

theorem bind_eq_error {x : Except ε α} {f : α → Except ε β} {error : ε} :
    x >>= f = .error error ↔ x = .error error ∨ ∃ a, x = .ok a ∧ f a = .error error := by
  cases x with
  | error other => simp [bind, Except.bind]
  | ok a => simp [bind, Except.bind]

theorem ok_bind (a : α) (f : α → Except ε β) : (Except.ok a >>= f) = f a := rfl

/-- A check in front of a computation. -/
theorem bind_unit_eq_ok {x : Except ε Unit} {f : Unit → Except ε β} {b : β} :
    x >>= f = .ok b ↔ x = .ok () ∧ f () = .ok b := by
  rw [bind_eq_ok]
  constructor
  · intro ⟨(), hx, hf⟩
    exact ⟨hx, hf⟩
  · intro ⟨hx, hf⟩
    exact ⟨(), hx, hf⟩

/-- A reader with errors `ε`. -/
abbrev Reader (ε α : Type) := StateT (List UInt8) (Except ε) α

/-! ## Numbers -/

/-- The big-endian bytes of a number, modulo `256 ^ n`. -/
def beBytes : Nat → Nat → List UInt8
  | 0, _ => []
  | n + 1, x => beBytes n (x / 256) ++ [UInt8.ofNat x]

/-- The number of big-endian bytes. -/
def ofBe (bytes : List UInt8) : Nat := bytes.foldl (fun value byte => value * 256 + byte.toNat) 0

@[simp] theorem length_beBytes (n x : Nat) : (beBytes n x).length = n := by
  induction n generalizing x with
  | zero => rfl
  | succ n ih => simp [beBytes, ih]

theorem ofBe_append_singleton (bytes : List UInt8) (byte : UInt8) :
    ofBe (bytes ++ [byte]) = ofBe bytes * 256 + byte.toNat := by
  simp [ofBe]

theorem ofBe_lt (bytes : List UInt8) : ofBe bytes < 256 ^ bytes.length := by
  induction bytes using List.reverseRecOn with
  | nil => simp [ofBe]
  | append_singleton bytes byte ih =>
    rw [ofBe_append_singleton, List.length_append, List.length_singleton, pow_succ]
    have := byte.toNat_lt
    omega

/-- A number within the range is read back from its bytes. -/
theorem ofBe_beBytes {n x : Nat} (h : x < 256 ^ n) : ofBe (beBytes n x) = x := by
  induction n generalizing x with
  | zero => simp at h; simp [beBytes, ofBe, h]
  | succ n ih =>
    have hdiv : x / 256 < 256 ^ n := by
      rw [pow_succ] at h
      omega
    rw [beBytes, ofBe_append_singleton, ih hdiv, UInt8.toNat_ofNat']
    omega

theorem beBytes_ofBe (bytes : List UInt8) : beBytes bytes.length (ofBe bytes) = bytes := by
  induction bytes using List.reverseRecOn with
  | nil => rfl
  | append_singleton bytes byte ih =>
    have hlt := byte.toNat_lt
    have hdiv : (ofBe bytes * 256 + byte.toNat) / 256 = ofBe bytes := by omega
    have hmod : UInt8.ofNat (ofBe bytes * 256 + byte.toNat) = byte := by
      apply UInt8.toNat_inj.mp
      rw [UInt8.toNat_ofNat']
      omega
    rw [List.length_append, List.length_singleton, ofBe_append_singleton, beBytes, hdiv, hmod, ih]

/-- A byte string of known length is its number. -/
theorem beBytes_ofBe_of_length {n : Nat} {bytes : List UInt8} (h : bytes.length = n) :
    beBytes n (ofBe bytes) = bytes := by
  subst h
  exact beBytes_ofBe bytes

/-! ## Words -/

namespace Reader

/-- The reader takes exactly the words of `S a` for `a`. -/
def Takes (r : Reader ε α) (S : α → List UInt8 → Prop) : Prop :=
  ∀ bytes a rest, r.run bytes = .ok (a, rest) ↔ ∃ word, S a word ∧ bytes = word ++ rest

variable {r : Reader ε α} {S : α → List UInt8 → Prop}

theorem Takes.congr {T : α → List UInt8 → Prop} (h : Takes r S)
    (hiff : ∀ a word, S a word ↔ T a word) : Takes r T := by
  intro bytes a rest
  rw [h bytes a rest]
  exact exists_congr fun word => and_congr_left fun _ => hiff a word

/-- The words of a reader that has to take everything. -/
theorem Takes.run_nil (h : Takes r S) {bytes : List UInt8} {a : α} :
    r.run bytes = .ok (a, []) ↔ S a bytes := by
  simp [h bytes a []]

/-- What follows the word that a reader takes is left over. -/
theorem Takes.run_append (h : Takes r S) {bytes rest : List UInt8} {a : α}
    (hrun : r.run bytes = .ok (a, rest)) (more : List UInt8) :
    r.run (bytes ++ more) = .ok (a, rest ++ more) := by
  obtain ⟨word, hword, rfl⟩ := (h bytes a rest).mp hrun
  exact (h _ a _).mpr ⟨word, hword, List.append_assoc ..⟩

/-- A reader that takes two byte strings whole does not take one of them for the beginning of the other. -/
theorem Takes.not_front (h : Takes r S) {front rest : List UInt8} {a b : α}
    (hfront : r.run front = .ok (a, [])) (hwhole : r.run (front ++ rest) = .ok (b, [])) :
    rest = [] := by
  have hleft := h.run_append hfront rest
  rw [hwhole] at hleft
  exact (Prod.mk.inj (Except.ok.inj hleft)).2.symm

/-- Return without reading. -/
theorem takes_pure (a : α) : Takes (pure a : Reader ε α) fun b word => b = a ∧ word = [] := by
  intro bytes b rest
  constructor
  · intro h
    obtain ⟨rfl, rfl⟩ := Prod.mk.inj (Except.ok.inj h)
    exact ⟨[], ⟨rfl, rfl⟩, rfl⟩
  · rintro ⟨word, ⟨rfl, rfl⟩, rfl⟩
    rfl

/-- Fail. -/
def fail (e : ε) : Reader ε α := fun _ => .error e

theorem takes_fail (e : ε) : Takes (fail e : Reader ε α) fun _ _ => False := by
  intro bytes b rest
  constructor
  · intro h
    nomatch h
  · rintro ⟨word, h, -⟩
    exact h.elim

variable {T : α → β → List UInt8 → Prop} {f : α → Reader ε β}

theorem Takes.bind (hr : Takes r S) (hf : ∀ a, Takes (f a) (T a)) :
    Takes (r >>= f) fun b word => ∃ a first second, S a first ∧ T a b second ∧ word = first ++ second := by
  intro bytes b rest
  rw [StateT.run_bind]
  constructor
  · intro h
    cases hrun : r.run bytes with
    | error e =>
      rw [hrun] at h
      nomatch h
    | ok result =>
      obtain ⟨a, middle⟩ := result
      rw [hrun] at h
      obtain ⟨first, hfirst, rfl⟩ := (hr _ _ _).mp hrun
      obtain ⟨second, hsecond, rfl⟩ := (hf a _ _ _).mp h
      exact ⟨first ++ second, ⟨a, first, second, hfirst, hsecond, rfl⟩, (List.append_assoc ..).symm⟩
  · rintro ⟨word, ⟨a, first, second, hfirst, hsecond, rfl⟩, rfl⟩
    have hrun : r.run (first ++ second ++ rest) = .ok (a, second ++ rest) :=
      (hr _ _ _).mpr ⟨first, hfirst, List.append_assoc ..⟩
    rw [hrun]
    exact (hf a _ _ _).mpr ⟨second, hsecond, rfl⟩

/-- After a reader whose word is determined by its value. -/
theorem Takes.word {P : α → Prop} {w : α → List UInt8} (hr : Takes r fun a word => P a ∧ word = w a)
    (hf : ∀ a, Takes (f a) (T a)) :
    Takes (r >>= f) fun b word => ∃ a, P a ∧ ∃ rest, T a b rest ∧ word = w a ++ rest := by
  refine (hr.bind hf).congr fun b word => ?_
  constructor
  · rintro ⟨a, first, rest, ⟨ha, rfl⟩, hrest, rfl⟩
    exact ⟨a, ha, rest, hrest, rfl⟩
  · rintro ⟨a, ha, rest, hrest, rfl⟩
    exact ⟨a, w a, rest, ⟨ha, rfl⟩, hrest, rfl⟩

theorem Takes.exactly {w : α → List UInt8} (hr : Takes r fun a word => word = w a)
    (hf : ∀ a, Takes (f a) (T a)) :
    Takes (r >>= f) fun b word => ∃ a rest, T a b rest ∧ word = w a ++ rest := by
  refine (hr.bind hf).congr fun b word => ?_
  constructor
  · rintro ⟨a, first, rest, rfl, hrest, rfl⟩
    exact ⟨a, rest, hrest, rfl⟩
  · rintro ⟨a, rest, hrest, rfl⟩
    exact ⟨a, w a, rest, rfl, hrest, rfl⟩

/-- After a reader that reads nothing. -/
theorem Takes.check {P : α → Prop} (hr : Takes r fun a word => P a ∧ word = [])
    (hf : ∀ a, Takes (f a) (T a)) :
    Takes (r >>= f) fun b word => ∃ a, P a ∧ T a b word := by
  refine (hr.word (w := fun _ => []) hf).congr fun b word => ?_
  simp

/-- Make a value of what the last reader returns. -/
theorem Takes.map (hr : Takes r S) (g : α → β) :
    Takes (r >>= fun a => pure (g a)) fun b word => ∃ a, S a word ∧ b = g a := by
  refine (hr.bind fun a => takes_pure (g a)).congr fun b word => ?_
  constructor
  · rintro ⟨a, first, rest, ha, ⟨rfl, rfl⟩, rfl⟩
    exact ⟨a, by rwa [List.append_nil], rfl⟩
  · rintro ⟨a, ha, rfl⟩
    exact ⟨a, word, [], ha, ⟨rfl, rfl⟩, (List.append_nil _).symm⟩

theorem Takes.ite (p : Prop) [Decidable p] {r' : Reader ε α} {T : α → List UInt8 → Prop}
    (h : Takes r S) (h' : Takes r' T) :
    Takes (if p then r else r') fun a word => (p → S a word) ∧ (¬p → T a word) := by
  split
  · exact h.congr fun _ _ => by simp [*]
  · exact h'.congr fun _ _ => by simp [*]

/-- Fail unless the condition holds. -/
def require (p : Prop) [Decidable p] (e : ε) : Reader ε Unit := if p then pure () else fail e

theorem takes_require (p : Prop) [Decidable p] (e : ε) :
    Takes (require p e) fun _ word => p ∧ word = [] := by
  unfold require
  split
  · exact (takes_pure ()).congr fun _ _ => by simp [*]
  · exact (takes_fail e).congr fun _ _ => by simp [*]

/-- Take a result that does not depend on the bytes. -/
def lift (result : Except ε α) : Reader ε α := fun bytes => result.map fun a => (a, bytes)

theorem takes_lift (result : Except ε α) :
    Takes (lift result) fun a word => result = .ok a ∧ word = [] := by
  cases result with
  | error e => exact (takes_fail e).congr fun _ _ => by simp
  | ok b => exact (takes_pure b).congr fun a _ => by simp [eq_comm]

/-! ## Bytes and numbers -/

/-- The next `n` bytes. -/
def bytes (n : Nat) (e : ε) : Reader ε (List UInt8) := fun bytes =>
  if bytes.length < n then .error e else .ok (bytes.take n, bytes.drop n)

theorem takes_bytes (n : Nat) (e : ε) :
    Takes (bytes n e) fun taken word => word = taken ∧ taken.length = n := by
  intro bytes taken rest
  change (if bytes.length < n then Except.error e else .ok (bytes.take n, bytes.drop n)) = _ ↔ _
  split
  · rename_i hlt
    refine ⟨nofun, ?_⟩
    rintro ⟨word, ⟨rfl, rfl⟩, rfl⟩
    rw [List.length_append] at hlt
    omega
  · rename_i hge
    constructor
    · intro h
      obtain ⟨rfl, rfl⟩ := Prod.mk.inj (Except.ok.inj h)
      exact ⟨_, ⟨rfl, List.length_take_of_le (Nat.not_lt.mp hge)⟩, (List.take_append_drop n bytes).symm⟩
    · rintro ⟨word, ⟨rfl, rfl⟩, rfl⟩
      simp

/-- An unsigned number of `n` bytes. -/
def unsigned (n : Nat) (e : ε) : Reader ε Nat := do
  let bytes ← bytes n e
  pure (ofBe bytes)

theorem takes_unsigned (n : Nat) (e : ε) :
    Takes (unsigned n e) fun x word => x < 256 ^ n ∧ word = beBytes n x := by
  refine ((takes_bytes n e).bind fun bytes => takes_pure (ofBe bytes)).congr fun x word => ?_
  constructor
  · rintro ⟨bytes, first, second, ⟨rfl, rfl⟩, ⟨rfl, rfl⟩, rfl⟩
    exact ⟨ofBe_lt _, by rw [List.append_nil, beBytes_ofBe]⟩
  · rintro ⟨hlt, rfl⟩
    exact ⟨_, _, [], ⟨rfl, length_beBytes n x⟩, ⟨(ofBe_beBytes hlt).symm, rfl⟩, (List.append_nil _).symm⟩

/-! ## Records -/

/-- The numbers of a record with fields of the given sizes. -/
def fields : List Nat → List UInt8 → List Nat
  | [], _ => []
  | n :: sizes, bytes => ofBe (bytes.take n) :: fields sizes (bytes.drop n)

/-- The bytes of the numbers of a record. -/
def recordBytes (sizes values : List Nat) : List UInt8 := (List.zipWith beBytes sizes values).flatten

theorem fields_recordBytes {sizes values : List Nat} (h : List.Forall₂ (fun n x => x < 256 ^ n) sizes values) :
    fields sizes (recordBytes sizes values) = values := by
  induction h with
  | nil => rfl
  | @cons n x sizes values hlt _ ih =>
    have htake : (beBytes n x ++ recordBytes sizes values).take n = beBytes n x :=
      List.take_left' (length_beBytes n x)
    have hdrop : (beBytes n x ++ recordBytes sizes values).drop n = recordBytes sizes values :=
      List.drop_left' (length_beBytes n x)
    change fields (n :: sizes) (beBytes n x ++ recordBytes sizes values) = x :: values
    rw [fields, htake, hdrop, ih, ofBe_beBytes hlt]

theorem recordBytes_fields {sizes : List Nat} {bytes : List UInt8} (h : bytes.length = sizes.sum) :
    List.Forall₂ (fun n x => x < 256 ^ n) sizes (fields sizes bytes) ∧
      recordBytes sizes (fields sizes bytes) = bytes := by
  induction sizes generalizing bytes with
  | nil =>
    rw [List.sum_nil] at h
    rw [List.length_eq_zero_iff.mp h]
    exact ⟨.nil, rfl⟩
  | cons n sizes ih =>
    rw [List.sum_cons] at h
    have htake : (bytes.take n).length = n := by
      rw [List.length_take]
      omega
    have hrest : (bytes.drop n).length = sizes.sum := by
      rw [List.length_drop]
      omega
    obtain ⟨hfields, hbytes⟩ := ih hrest
    refine ⟨.cons ?_ hfields, ?_⟩
    · have hlt := ofBe_lt (bytes.take n)
      rwa [htake] at hlt
    · have hhead := beBytes_ofBe (bytes.take n)
      rw [htake] at hhead
      change beBytes n (ofBe (bytes.take n)) ++ recordBytes sizes (fields sizes (bytes.drop n)) = bytes
      rw [hhead, hbytes, List.take_append_drop]

theorem length_recordBytes {sizes values : List Nat} (h : sizes.length = values.length) :
    (recordBytes sizes values).length = sizes.sum := by
  induction sizes generalizing values with
  | nil => simp [recordBytes]
  | cons n sizes ih =>
    cases values with
    | nil => exact nomatch h
    | cons x values =>
      have htail : sizes.length = values.length := by simpa using h
      have hrest := ih htail
      simp only [recordBytes, List.zipWith_cons_cons, List.flatten_cons, List.length_append, length_beBytes,
        List.sum_cons] at hrest ⊢
      rw [hrest]

/-- All fields of a record at once. -/
def record (sizes : List Nat) (e : ε) : Reader ε (List Nat) := do
  let bytes ← bytes sizes.sum e
  pure (fields sizes bytes)

theorem takes_record (sizes : List Nat) (e : ε) :
    Takes (record sizes e) fun values word =>
      List.Forall₂ (fun n x => x < 256 ^ n) sizes values ∧ word = recordBytes sizes values := by
  refine ((takes_bytes sizes.sum e).bind fun bytes => takes_pure (fields sizes bytes)).congr fun values word => ?_
  constructor
  · rintro ⟨bytes, first, second, ⟨rfl, hlength⟩, ⟨rfl, rfl⟩, rfl⟩
    obtain ⟨hfields, hbytes⟩ := recordBytes_fields hlength
    exact ⟨hfields, by rw [List.append_nil, hbytes]⟩
  · rintro ⟨hvalues, rfl⟩
    exact ⟨_, _, [], ⟨rfl, length_recordBytes hvalues.length_eq⟩, ⟨(fields_recordBytes hvalues).symm, rfl⟩,
      (List.append_nil _).symm⟩

/-! ## Repetition -/

/-- The same reader `n` times. -/
def replicate (n : Nat) (r : Reader ε α) : Reader ε (List α) :=
  match n with
  | 0 => pure []
  | n + 1 => do
    let a ← r
    let rest ← replicate n r
    pure (a :: rest)

theorem Takes.replicate (h : Takes r S) (n : Nat) :
    Takes (replicate n r) fun values word =>
      values.length = n ∧ ∃ words, List.Forall₂ S values words ∧ word = words.flatten := by
  induction n with
  | zero =>
    refine (takes_pure []).congr fun values word => ?_
    constructor
    · rintro ⟨rfl, rfl⟩
      exact ⟨rfl, [], .nil, rfl⟩
    · rintro ⟨hlength, words, hwords, rfl⟩
      obtain rfl := List.length_eq_zero_iff.mp hlength
      cases hwords
      exact ⟨rfl, rfl⟩
  | succ n ih =>
    refine (h.bind fun a => ih.bind fun rest => takes_pure (a :: rest)).congr fun values word => ?_
    constructor
    · rintro ⟨a, first, -, ha, ⟨rest, second, -, ⟨hlength, words, hwords, rfl⟩, ⟨rfl, rfl⟩, rfl⟩, rfl⟩
      exact ⟨by simp [hlength], first :: words, .cons ha hwords, by simp⟩
    · rintro ⟨hlength, words, hwords, rfl⟩
      cases hwords with
      | nil => exact nomatch hlength
      | @cons a first rest words ha hwords =>
        exact ⟨a, first, words.flatten ++ [], ha,
          ⟨rest, words.flatten, [], ⟨by simpa using hlength, words, hwords, rfl⟩, ⟨rfl, rfl⟩, rfl⟩, by simp⟩

/-! ## Text -/

end Reader

/-- The UTF-8 bytes of a text. -/
def utf8 (text : String) : List UInt8 := text.toByteArray.data.toList

/-- Strict UTF-8 decoding. -/
def fromUtf8 (bytes : List UInt8) : Option String := String.fromUTF8? ⟨bytes.toArray⟩

theorem fromUtf8_eq_some {bytes : List UInt8} {text : String} : fromUtf8 bytes = some text ↔ bytes = utf8 text := by
  unfold fromUtf8 String.fromUTF8?
  constructor
  · intro h
    split at h
    · rw [← Option.some.inj h]
      rfl
    · nomatch h
  · rintro rfl
    have hbytes : (⟨(utf8 text).toArray⟩ : ByteArray) = text.toByteArray := by
      unfold utf8
      rw [Array.toArray_toList]
    rw [hbytes, dif_pos text.isValidUTF8]
    rfl

/-- A text behind its length in two bytes. -/
def textBytes (text : String) : List UInt8 := beBytes 2 (utf8 text).length ++ utf8 text

namespace Reader

/-- A text behind its length in two bytes, with the errors for a missing length, missing bytes and other
encodings. -/
def text (truncated truncatedText invalid : ε) : Reader ε String := do
  let length ← unsigned 2 truncated
  let bytes ← bytes length truncatedText
  match fromUtf8 bytes with
  | some text => pure text
  | none => fail invalid

theorem takes_text (truncated truncatedText invalid : ε) :
    Takes (text truncated truncatedText invalid) fun text word => (utf8 text).length < 65536 ∧ word = textBytes text := by
  have hdecode : ∀ bytes, Takes (match fromUtf8 bytes with
      | some text => pure text
      | none => fail invalid : Reader ε String) fun text word => bytes = utf8 text ∧ word = [] := by
    intro bytes
    cases h : fromUtf8 bytes with
    | none =>
      refine (takes_fail invalid).congr fun text word => ⟨False.elim, fun ⟨hbytes, _⟩ => ?_⟩
      rw [fromUtf8_eq_some.mpr hbytes] at h
      nomatch h
    | some text =>
      refine (takes_pure text).congr fun other word => and_congr_left fun _ => ?_
      rw [← fromUtf8_eq_some, h, Option.some.injEq, eq_comm]
  refine ((takes_unsigned 2 truncated).bind fun length =>
    (takes_bytes length truncatedText).bind hdecode).congr fun text word => ?_
  constructor
  · rintro ⟨length, -, -, ⟨hlt, rfl⟩, ⟨-, -, -, ⟨rfl, rfl⟩, ⟨rfl, rfl⟩, rfl⟩, rfl⟩
    exact ⟨hlt, by rw [List.append_nil, textBytes]⟩
  · rintro ⟨hlt, rfl⟩
    exact ⟨_, _, _, ⟨hlt, rfl⟩, ⟨_, _, _, ⟨rfl, rfl⟩, ⟨rfl, rfl⟩, (List.append_nil _).symm⟩, rfl⟩

end Reader

end Library
