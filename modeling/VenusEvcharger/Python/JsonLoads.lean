import VenusEvcharger.Python.Numbers
import Mathlib.Algebra.Order.Ring.Abs
import Mathlib.Data.List.TakeDrop

/-!
# `json.loads` and `json.dumps`

The decoder of Python's `json` module on text: RFC 8259 with `NaN`, `Infinity` and `-Infinity`, and with three kinds
of failure. A malformed text raises `JSONDecodeError`, an integer literal beyond `maxStrDigits` digits a plain
`ValueError`, and nesting beyond the interpreter's stack `RecursionError`. The encoder raises `ValueError` on an integer
of more than `maxStrDigits` digits.

Scope: a float literal denotes its decimal value, or an infinity beyond the float range. A lone surrogate, which is no
character here, reads as U+FFFD. The text that the encoder writes is represented by the value it stands for.
-/

namespace VenusEvcharger

open Library

/-- How decoding fails. -/
inductive JsonError where
  /-- `JSONDecodeError`. -/
  | decodeError
  /-- A plain `ValueError` of `int`. -/
  | digits
  /-- `RecursionError`. -/
  | recursion
deriving DecidableEq

namespace JsonLoads

/-- `" \t\n\r"`. -/
def isBlank (c : Char) : Bool := c = ' ' || c = '\t' || c = '\n' || c = '\r'

/-- `WHITESPACE.match`. -/
def skip (cs : List Char) : List Char := cs.dropWhile isBlank

/-! ## Strings -/

def hexDigit (c : Char) : Option Nat :=
  if c.isDigit then some (c.toNat - 48)
  else if 'a' ≤ c ∧ c ≤ 'f' then some (c.toNat - 87)
  else if 'A' ≤ c ∧ c ≤ 'F' then some (c.toNat - 55)
  else none

/-- The code unit of four hexadecimal digits. -/
def codeUnit (a b c d : Char) : Option Nat := do
  return ((← hexDigit a) * 16 + (← hexDigit b)) * 256 + (← hexDigit c) * 16 + (← hexDigit d)

/-- The character of a code unit that is no half of a pair. -/
def unitChar (unit : Nat) : Char := if 0xD800 ≤ unit ∧ unit ≤ 0xDFFF then '\uFFFD' else Char.ofNat unit

/-- The character of a one-letter escape. -/
def escaped : Char → Option Char
  | '"' => some '"'
  | '\\' => some '\\'
  | '/' => some '/'
  | 'b' => some '\x08'
  | 'f' => some '\x0c'
  | 'n' => some '\n'
  | 'r' => some '\r'
  | 't' => some '\t'
  | _ => none

/-- `scanstring` after the opening quote: the characters and what follows the closing quote. A surrogate pair is one
character, and control characters are refused. -/
def scanString : Nat → List Char → Option (List Char × List Char)
  | 0, _ => none
  | _ + 1, [] => none
  | _ + 1, '"' :: rest => some ([], rest)
  | fuel + 1, '\\' :: 'u' :: a :: b :: c :: d :: rest =>
    match codeUnit a b c d with
    | none => none
    | some unit =>
      let lone := (scanString fuel rest).map fun r => (unitChar unit :: r.1, r.2)
      match rest with
      | '\\' :: 'u' :: e :: f :: g :: h :: rest =>
        match codeUnit e f g h with
        | some low =>
          if 0xD800 ≤ unit ∧ unit ≤ 0xDBFF ∧ 0xDC00 ≤ low ∧ low ≤ 0xDFFF then
            (scanString fuel rest).map fun r =>
              (Char.ofNat (0x10000 + (unit - 0xD800) * 0x400 + (low - 0xDC00)) :: r.1, r.2)
          else lone
        | none => none
      | _ => lone
  | fuel + 1, '\\' :: c :: rest =>
    match escaped c with
    | some c => (scanString fuel rest).map fun r => (c :: r.1, r.2)
    | none => none
  | fuel + 1, c :: rest => if c.toNat < 32 then none else (scanString fuel rest).map fun r => (c :: r.1, r.2)

/-! ## Numbers -/

def digitsValue (digits : List Char) : Nat := digits.foldl (fun n c => 10 * n + (c.toNat - 48)) 0

/-- The digits of `-?(0|[1-9][0-9]*)` after the sign. -/
def integerDigits : List Char → Option (List Char × List Char)
  | '0' :: rest => some (['0'], rest)
  | cs => if cs.takeWhile Char.isDigit = [] then none else some (cs.span Char.isDigit)

/-- `(\.[0-9]+)?`: the digits, none when there is no fraction. -/
def fractionDigits : List Char → List Char × List Char
  | '.' :: rest => if rest.takeWhile Char.isDigit = [] then ([], '.' :: rest) else rest.span Char.isDigit
  | cs => ([], cs)

/-- The digits of an exponent, with its sign. -/
def signedDigits (negative : Bool) (cs : List Char) : Option (Int × List Char) :=
  if cs.takeWhile Char.isDigit = [] then none
  else some (if negative then -(digitsValue (cs.takeWhile Char.isDigit) : Int)
    else digitsValue (cs.takeWhile Char.isDigit), cs.dropWhile Char.isDigit)

/-- `([eE][-+]?[0-9]+)?`. -/
def exponent : List Char → Option (Int × List Char)
  | 'e' :: rest | 'E' :: rest =>
    match rest with
    | '-' :: rest => signedDigits true rest
    | '+' :: rest => signedDigits false rest
    | rest => signedDigits false rest
  | _ => none

/-- `mantissa * 10 ** power`. -/
def scaled (mantissa : Int) : Int → ℚ
  | .ofNat n => mantissa * 10 ^ n
  | .negSucc n => mantissa / 10 ^ (n + 1)

/-- `_match_number`: an integer without fraction and exponent, else a float. -/
def scanNumber (cs : List Char) : Except JsonError (Value × List Char) :=
  let negative := cs.head? = some '-'
  match integerDigits (if negative then cs.tail else cs) with
  | none => .error .decodeError
  | some (digits, rest) =>
    let fraction := fractionDigits rest
    let sign : Int := if negative then -1 else 1
    match exponent fraction.2 with
    | some (power, rest) =>
      .ok (.float (PyFloat.ofRat (scaled (sign * digitsValue (digits ++ fraction.1)) (power - fraction.1.length))), rest)
    | none =>
      if fraction.1 = [] then
        if digits.length ≤ maxStrDigits then .ok (.int (sign * digitsValue digits), rest) else .error .digits
      else
        .ok (.float (PyFloat.ofRat (scaled (sign * digitsValue (digits ++ fraction.1)) (-fraction.1.length))),
          fraction.2)

/-! ## Values -/

mutual
/-- `scan_once`. The first number bounds the calls, the second is the nesting still possible. -/
def scanOnce : Nat → Nat → List Char → Except JsonError (Value × List Char)
  | 0, _, _ => .error .decodeError
  | fuel + 1, room, cs =>
    match cs with
    | '"' :: rest =>
      match scanString (fuel + 1) rest with
      | some (text, rest) => .ok (.str (String.ofList text), rest)
      | none => .error .decodeError
    | '{' :: rest =>
      match room, skip rest with
      | 0, _ => .error .recursion
      | _ + 1, '}' :: rest => .ok (.obj [], rest)
      | room + 1, rest => (fun r => (.obj (Dict.ofList r.1).entries, r.2)) <$> scanEntries fuel room rest
    | '[' :: rest =>
      match room, skip rest with
      | 0, _ => .error .recursion
      | _ + 1, ']' :: rest => .ok (.list [], rest)
      | room + 1, rest => (fun r => (.list r.1, r.2)) <$> scanItems fuel room rest
    | 'n' :: 'u' :: 'l' :: 'l' :: rest => .ok (.null, rest)
    | 't' :: 'r' :: 'u' :: 'e' :: rest => .ok (.bool true, rest)
    | 'f' :: 'a' :: 'l' :: 's' :: 'e' :: rest => .ok (.bool false, rest)
    | 'N' :: 'a' :: 'N' :: rest => .ok (.float .nan, rest)
    | 'I' :: 'n' :: 'f' :: 'i' :: 'n' :: 'i' :: 't' :: 'y' :: rest => .ok (.float .posInf, rest)
    | '-' :: 'I' :: 'n' :: 'f' :: 'i' :: 'n' :: 'i' :: 't' :: 'y' :: rest => .ok (.float .negInf, rest)
    | cs => scanNumber cs

/-- `_parse_array` at an item. -/
def scanItems : Nat → Nat → List Char → Except JsonError (List Value × List Char)
  | 0, _, _ => .error .decodeError
  | fuel + 1, room, cs => do
    let item ← scanOnce fuel room cs
    match skip item.2 with
    | ']' :: rest => .ok ([item.1], rest)
    | ',' :: rest => (fun r => (item.1 :: r.1, r.2)) <$> scanItems fuel room (skip rest)
    | _ => .error .decodeError

/-- `_parse_object` at a key. -/
def scanEntries : Nat → Nat → List Char → Except JsonError (List (String × Value) × List Char)
  | 0, _, _ => .error .decodeError
  | fuel + 1, room, cs =>
    match cs with
    | '"' :: cs =>
      match scanString (fuel + 1) cs with
      | none => .error .decodeError
      | some (key, rest) =>
        match skip rest with
        | ':' :: rest => do
          let value ← scanOnce fuel room (skip rest)
          match skip value.2 with
          | '}' :: rest => .ok ([(String.ofList key, value.1)], rest)
          | ',' :: rest =>
            (fun r => ((String.ofList key, value.1) :: r.1, r.2)) <$> scanEntries fuel room (skip rest)
          | _ => .error .decodeError
        | _ => .error .decodeError
    | _ => .error .decodeError
end

end JsonLoads

open JsonLoads in
/-- `json.loads(text)`: one value between blanks. A text that starts with a byte order mark is refused. -/
def jsonLoads [PyRuntime] (text : String) : Except JsonError Value :=
  let cs := text.toList
  if cs.head? = some '\uFEFF' then .error .decodeError
  else
    match scanOnce (2 * cs.length + 2) PyRuntime.nestingLimit (skip cs) with
    | .ok (value, rest) => if skip rest = [] then .ok value else .error .decodeError
    | .error error => .error error

/-! ## Integers that can be written -/

mutual
/-- Every part of the value that is no container satisfies `p`. -/
def Value.every (p : Value → Bool) : Value → Bool
  | .list vs => everyItem p vs
  | .obj es => everyEntry p es
  | v@(.null) | v@(.bool _) | v@(.int _) | v@(.float _) | v@(.str _) => p v

def Value.everyItem (p : Value → Bool) : List Value → Bool
  | [] => true
  | v :: vs => v.every p && everyItem p vs

def Value.everyEntry (p : Value → Bool) : List (String × Value) → Bool
  | [] => true
  | (_, v) :: es => v.every p && everyEntry p es
end

/-- An integer within the digits that `str` writes. -/
def Value.intPrintable : Value → Bool
  | .int i => decide (i.natAbs < 10 ^ maxStrDigits)
  | _ => true

/-- What a literal of a JSON text denotes: besides, a finite float is within the range of floats. -/
def Value.isLiteral : Value → Bool
  | .int i => decide (i.natAbs < 10 ^ maxStrDigits)
  | .float (.fin q) => decide (|q| < floatOverflow)
  | _ => true

/-- No integer in the value has more than `maxStrDigits` digits. -/
def Value.printable (v : Value) : Bool := v.every intPrintable

/-- The value is made of literals. -/
def Value.decoded (v : Value) : Bool := v.every isLiteral

/-- `compact_json(value)`. -/
def compactJson (value : Value) : Except PyError Value :=
  if value.printable then .ok value else .error .valueError

namespace Value

variable {p q : Value → Bool}

@[simp] theorem every_list (vs : List Value) : (list vs).every p ↔ ∀ v ∈ vs, v.every p := by
  rw [every]
  induction vs with
  | nil => simp [everyItem]
  | cons v vs ih => simp [everyItem, ih]

@[simp] theorem every_obj (es : List (String × Value)) : (obj es).every p ↔ ∀ e ∈ es, e.2.every p := by
  rw [every]
  induction es with
  | nil => simp [everyEntry]
  | cons e es ih => simp [everyEntry, ih]

mutual
theorem every_mono (h : ∀ v, p v → q v) : (v : Value) → v.every p → v.every q
  | list vs, hv => (every_list vs).mpr (every_mono_items h vs ((every_list vs).mp hv))
  | obj es, hv => (every_obj es).mpr (every_mono_entries h es ((every_obj es).mp hv))
  | null, hv | bool _, hv | int _, hv | float _, hv | str _, hv => h _ hv

theorem every_mono_items (h : ∀ v, p v → q v) : (vs : List Value) → (∀ v ∈ vs, v.every p) → ∀ v ∈ vs, v.every q
  | [], _ => nofun
  | v :: vs, hv => List.forall_mem_cons.mpr
      ⟨every_mono h v (hv v List.mem_cons_self),
        every_mono_items h vs fun w hw => hv w (List.mem_cons_of_mem _ hw)⟩

theorem every_mono_entries (h : ∀ v, p v → q v) :
    (es : List (String × Value)) → (∀ e ∈ es, e.2.every p) → ∀ e ∈ es, e.2.every q
  | [], _ => nofun
  | (k, v) :: es, hv => List.forall_mem_cons.mpr
      ⟨every_mono h v (hv (k, v) List.mem_cons_self),
        every_mono_entries h es fun w hw => hv w (List.mem_cons_of_mem _ hw)⟩
end

@[simp] theorem decoded_int (i : Int) : (int i).decoded ↔ i.natAbs < 10 ^ maxStrDigits := by
  rw [decoded, every, isLiteral, decide_eq_true_iff]

@[simp] theorem decoded_list (vs : List Value) : (list vs).decoded ↔ ∀ v ∈ vs, v.decoded := every_list vs

@[simp] theorem decoded_obj (es : List (String × Value)) : (obj es).decoded ↔ ∀ e ∈ es, e.2.decoded := every_obj es

theorem printable_int (i : Int) : (int i).printable ↔ i.natAbs < 10 ^ maxStrDigits := by
  rw [printable, every, intPrintable, decide_eq_true_iff]

theorem printable_list (vs : List Value) : (list vs).printable ↔ ∀ v ∈ vs, v.printable := every_list vs

theorem printable_obj (es : List (String × Value)) : (obj es).printable ↔ ∀ e ∈ es, e.2.printable :=
  every_obj es

theorem printable_of_decoded {v : Value} (h : v.decoded) : v.printable := by
  refine every_mono (fun v hv => ?_) v h
  cases v with
  | int i => exact hv
  | null | bool b | float x | str s | list vs | obj es => rfl

end Value

@[simp] theorem returns_compactJson (value : Value) : Returns (compactJson value) ↔ value.printable := by
  unfold compactJson
  split <;> simp_all

theorem PyFloat.isLiteral_ofRat (q : ℚ) : (Value.float (PyFloat.ofRat q)).isLiteral := by
  unfold PyFloat.ofRat
  split
  · rfl
  · split
    · rfl
    · rename_i hhigh hlow
      rw [Value.isLiteral, decide_eq_true_iff, abs_lt]
      exact ⟨not_le.mp hlow, not_le.mp hhigh⟩

namespace JsonLoads

theorem digitsValue_lt {digits : List Char} (h : ∀ c ∈ digits, c.isDigit) : digitsValue digits < 10 ^ digits.length := by
  induction digits using List.reverseRecOn with
  | nil => simp [digitsValue]
  | append_singleton digits c ih =>
    have ih := ih fun d hd => h d (List.mem_append_left _ hd)
    have hc : c.toNat ≤ 57 := by
      have := h c (by simp)
      simp only [Char.isDigit, Bool.and_eq_true, decide_eq_true_eq] at this
      exact this.2
    rw [digitsValue, List.foldl_append, List.length_append, List.length_singleton, pow_succ]
    change 10 * digitsValue digits + (c.toNat - 48) < _
    omega

variable {cs rest : List Char}

theorem integerDigits_isDigit {digits : List Char} (h : integerDigits cs = some (digits, rest)) :
    ∀ c ∈ digits, c.isDigit := by
  unfold integerDigits at h
  split at h
  · obtain ⟨rfl, -⟩ : ['0'] = digits ∧ _ := by simpa using h
    simp
  · split at h
    · cases h
    · obtain ⟨rfl, -⟩ : cs.takeWhile Char.isDigit = digits ∧ _ := by simpa [List.span_eq_takeWhile_dropWhile] using h
      exact fun c hc => List.mem_takeWhile_imp hc

theorem scanNumber_decoded {v : Value} (h : scanNumber cs = .ok (v, rest)) : v.decoded := by
  simp only [scanNumber] at h
  split at h
  · cases h
  · rename_i digits after hdigits
    split at h
    · cases h
      exact PyFloat.isLiteral_ofRat _
    · split at h
      · split at h
        · rename_i hlength
          have hlt := digitsValue_lt (integerDigits_isDigit hdigits)
          have hpow : 10 ^ digits.length ≤ 10 ^ maxStrDigits := Nat.pow_le_pow_right (by decide) hlength
          cases h
          rw [Value.decoded_int, Int.natAbs_mul, Int.natAbs_natCast]
          split <;> simp only [Int.natAbs_neg, Int.natAbs_one, one_mul] <;> omega
        · cases h
      · cases h
        exact PyFloat.isLiteral_ofRat _

/-- What `scan_once` yields is made of literals, if its containers are. -/
theorem scanOnce_decoded {fuel : Nat}
    (hitems : ∀ room cs vs rest, scanItems fuel room cs = .ok (vs, rest) → ∀ v ∈ vs, v.decoded)
    (hentries : ∀ room cs es rest, scanEntries fuel room cs = .ok (es, rest) → ∀ e ∈ es, e.2.decoded)
    {room : Nat} {v : Value} (h : scanOnce (fuel + 1) room cs = .ok (v, rest)) : v.decoded := by
  unfold scanOnce at h
  split at h
  case h_1 =>
      split at h
      · cases h
        rfl
      · cases h
  case h_2 =>
      split at h
      · cases h
      · cases h
        simp
      · obtain ⟨⟨es, tail⟩, hes, heq⟩ := map_eq_ok.mp h
        cases heq
        exact (Value.decoded_obj _).mpr (Dict.forall_entries_ofList (hentries _ _ es tail hes))
  case h_3 =>
      split at h
      · cases h
      · cases h
        simp
      · obtain ⟨⟨vs, tail⟩, hvs, heq⟩ := map_eq_ok.mp h
        cases heq
        exact (Value.decoded_list _).mpr (hitems _ _ vs tail hvs)
  case h_10 => exact scanNumber_decoded h
  all_goals
    cases h
    rfl

theorem scanItems_decoded {fuel : Nat}
    (honce : ∀ room cs v rest, scanOnce fuel room cs = .ok (v, rest) → v.decoded)
    (hitems : ∀ room cs vs rest, scanItems fuel room cs = .ok (vs, rest) → ∀ v ∈ vs, v.decoded)
    {room : Nat} {vs : List Value} (h : scanItems (fuel + 1) room cs = .ok (vs, rest)) :
    ∀ v ∈ vs, v.decoded := by
  rw [scanItems, bind_eq_ok] at h
  obtain ⟨⟨item, after⟩, hitem, h⟩ := h
  have hfirst := honce _ _ item after hitem
  simp only at h
  split at h
  · cases h
    simpa using hfirst
  · obtain ⟨⟨more, tail⟩, hmore, heq⟩ := map_eq_ok.mp h
    cases heq
    exact List.forall_mem_cons.mpr ⟨hfirst, hitems _ _ more tail hmore⟩
  · cases h

theorem scanEntries_decoded {fuel : Nat}
    (honce : ∀ room cs v rest, scanOnce fuel room cs = .ok (v, rest) → v.decoded)
    (hentries : ∀ room cs es rest, scanEntries fuel room cs = .ok (es, rest) → ∀ e ∈ es, e.2.decoded)
    {room : Nat} {es : List (String × Value)}
    (h : scanEntries (fuel + 1) room cs = .ok (es, rest)) : ∀ e ∈ es, e.2.decoded := by
  unfold scanEntries at h
  split at h
  case h_2 => cases h
  split at h
  · cases h
  · split at h
    · rw [bind_eq_ok] at h
      obtain ⟨⟨value, after⟩, hvalue, h⟩ := h
      have hfirst := honce _ _ value after hvalue
      simp only at h
      split at h
      · cases h
        simpa using hfirst
      · obtain ⟨⟨more, tail⟩, hmore, heq⟩ := map_eq_ok.mp h
        cases heq
        exact List.forall_mem_cons.mpr ⟨hfirst, hentries _ _ more tail hmore⟩
      · cases h
    · cases h

/-- Every value that the decoder yields is made of literals. -/
theorem scan_decoded (fuel : Nat) :
    (∀ room cs v rest, scanOnce fuel room cs = .ok (v, rest) → v.decoded) ∧
    (∀ room cs vs rest, scanItems fuel room cs = .ok (vs, rest) → ∀ v ∈ vs, v.decoded) ∧
    (∀ room cs es rest, scanEntries fuel room cs = .ok (es, rest) → ∀ e ∈ es, e.2.decoded) := by
  induction fuel with
  | zero =>
    refine ⟨?_, ?_, ?_⟩ <;> intro room cs v rest h
    · rw [scanOnce] at h
      cases h
    · rw [scanItems] at h
      cases h
    · rw [scanEntries] at h
      cases h
  | succ fuel ih =>
    obtain ⟨honce, hitems, hentries⟩ := ih
    exact ⟨fun _ _ _ _ h => scanOnce_decoded hitems hentries h,
      fun _ _ _ _ h => scanItems_decoded honce hitems h,
      fun _ _ _ _ h => scanEntries_decoded honce hentries h⟩

end JsonLoads

/-- A document is made of literals. -/
theorem jsonLoads_decoded [PyRuntime] {text : String} {v : Value} (h : jsonLoads text = .ok v) : v.decoded := by
  simp only [jsonLoads] at h
  split at h
  · cases h
  · split at h
    · rename_i hscan
      split at h
      · cases h
        exact (JsonLoads.scan_decoded _).1 _ _ _ _ hscan
      · cases h
    · cases h

end VenusEvcharger
