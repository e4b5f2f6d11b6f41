import VenusEvcharger.Library.Dict
import Mathlib.Algebra.GroupWithZero.Nat
import Mathlib.Algebra.Order.Ring.Rat

/-!
# JSON values as the program reads them

Commands and state records are JSON objects held as Python dictionaries. `Value` is what
`json.load` returns, `CommandPayload` a dictionary with string keys, and the functions here are
the built-in conversions the program applies to such values: truth, `str`, `float`, `strip`,
`==`, and the size of the compact JSON text.

Scope: a finite float is the rational it denotes and float arithmetic is exact. An integer that
exceeds the float range would raise in `float` and is converted like any other here.
-/

namespace VenusEvcharger

open Library

/-- A statement about the members of a list is decided along the list, also where their type could be enumerated. -/
instance (priority := 2000) decidableForallMem {α : Type*} (p : α → Prop) [DecidablePred p] (l : List α) :
    Decidable (∀ x ∈ l, p x) := List.decidableBAll p l

instance (priority := 2000) decidableForallMemOption {α : Type*} (p : α → Prop) [DecidablePred p] (o : Option α) :
    Decidable (∀ x ∈ o, p x) := Option.decidableForallMem o

/-- A Python float. -/
inductive PyFloat where
  | nan
  | negInf
  | fin (value : ℚ)
  | posInf
deriving DecidableEq

namespace PyFloat

/-- `math.isfinite`. -/
def isFinite : PyFloat → Bool
  | fin _ => true
  | _ => false

/-- `a <= b`, false as soon as one side is not a number. -/
def le : PyFloat → PyFloat → Bool
  | nan, _ => false
  | _, nan => false
  | negInf, _ => true
  | _, posInf => true
  | fin a, fin b => decide (a ≤ b)
  | _, _ => false

/-- `a < b`. -/
def lt (a b : PyFloat) : Bool := le a b && !le b a

/-- `a == b`. -/
def eq (a b : PyFloat) : Bool := le a b && le b a

/-- A float is false exactly when it is zero. -/
def truthy (x : PyFloat) : Bool := decide (x ≠ fin 0)

/-- `x or fallback`. -/
def orElse (x : PyFloat) (fallback : ℚ) : PyFloat := if x.truthy then x else fin fallback

@[simp] theorem le_fin (a b : ℚ) : le (fin a) (fin b) = decide (a ≤ b) := rfl

@[simp] theorem lt_fin (a b : ℚ) : lt (fin a) (fin b) = decide (a < b) := by
  rw [Bool.eq_iff_iff]
  simpa [lt] using fun h : a < b => h.le

end PyFloat

/-- A JSON value. The entries of an object are listed as they stand in the text. -/
inductive Value where
  | null
  | bool (b : Bool)
  | int (i : Int)
  | float (x : PyFloat)
  | str (s : String)
  | list (values : List Value)
  | obj (entries : List (String × Value))

/-- A command: a dictionary from field names to JSON values. -/
abbrev CommandPayload := Dict String Value

namespace Value

mutual
/-- Structural equality of values is decidable. -/
def decEq : (a b : Value) → Decidable (a = b)
  | null, null => isTrue rfl
  | bool a, bool b => decidable_of_iff (a = b) (by simp)
  | int a, int b => decidable_of_iff (a = b) (by simp)
  | float a, float b => decidable_of_iff (a = b) (by simp)
  | str a, str b => decidable_of_iff (a = b) (by simp)
  | list a, list b => @decidable_of_iff _ (a = b) (by simp) (decEqList a b)
  | obj a, obj b => @decidable_of_iff _ (a = b) (by simp) (decEqEntries a b)
  | null, bool _ | null, int _ | null, float _ | null, str _ | null, list _ | null, obj _
  | bool _, null | bool _, int _ | bool _, float _ | bool _, str _ | bool _, list _ | bool _, obj _
  | int _, null | int _, bool _ | int _, float _ | int _, str _ | int _, list _ | int _, obj _
  | float _, null | float _, bool _ | float _, int _ | float _, str _ | float _, list _
  | float _, obj _ | str _, null | str _, bool _ | str _, int _ | str _, float _ | str _, list _
  | str _, obj _ | list _, null | list _, bool _ | list _, int _ | list _, float _ | list _, str _
  | list _, obj _ | obj _, null | obj _, bool _ | obj _, int _ | obj _, float _ | obj _, str _
  | obj _, list _ => isFalse nofun

/-- Structural equality of lists of values. -/
def decEqList : (a b : List Value) → Decidable (a = b)
  | [], [] => isTrue rfl
  | x :: xs, y :: ys =>
    @decidable_of_iff _ (x = y ∧ xs = ys) (by simp)
      (@instDecidableAnd _ _ (decEq x y) (decEqList xs ys))
  | [], _ :: _ | _ :: _, [] => isFalse nofun

/-- Structural equality of object entries. -/
def decEqEntries : (a b : List (String × Value)) → Decidable (a = b)
  | [], [] => isTrue rfl
  | (j, x) :: xs, (k, y) :: ys =>
    @decidable_of_iff _ (j = k ∧ x = y ∧ xs = ys) (by simp [and_assoc])
      (@instDecidableAnd _ _ inferInstance
        (@instDecidableAnd _ _ (decEq x y) (decEqEntries xs ys)))
  | [], _ :: _ | _ :: _, [] => isFalse nofun
end

instance : DecidableEq Value := decEq

-- One proof each for the membership tests of the modules below.
instance lawfulBEq_payload : LawfulBEq CommandPayload := inferInstance

instance lawfulBEq_stringPair : LawfulBEq (String × String) := inferInstance

instance lawfulBEq_chars : LawfulBEq (List Char) := inferInstance

instance neZero_two : NeZero 2 := ⟨by decide⟩

/-- Python truth. -/
def truthy : Value → Bool
  | null => false
  | bool b => b
  | int i => decide (i ≠ 0)
  | float x => x.truthy
  | str s => decide (s ≠ "")
  | list vs => !vs.isEmpty
  | obj es => !es.isEmpty

/-- The number a value is compared as. Booleans are integers. -/
def number? : Value → Option PyFloat
  | bool b => some (.fin (if b then 1 else 0))
  | int i => some (.fin i)
  | float x => some x
  | _ => none

/-- `a == b` on numbers, false when one side is not a number. -/
def numberEq (a b : Value) : Bool :=
  match a.number?, b.number? with
  | some x, some y => x.eq y
  | _, _ => false

mutual
/-- Python's `==`: numbers compare by value, objects without regard to order. -/
def pyEq : Value → Value → Bool
  | null, b => match b with
    | null => true
    | _ => false
  | str a, b => match b with
    | str b => a == b
    | _ => false
  | list as, b => match b with
    | list bs => pyEqList as bs
    | _ => false
  | obj as, b => match b with
    | obj bs => as.length == bs.length && pyEqEntries as bs
    | _ => false
  | bool a, b => numberEq (bool a) b
  | int a, b => numberEq (int a) b
  | float a, b => numberEq (float a) b

/-- `==` on lists. -/
def pyEqList : List Value → List Value → Bool
  | [], bs => bs.isEmpty
  | a :: as, bs => match bs with
    | [] => false
    | b :: bs => pyEq a b && pyEqList as bs

/-- Every entry of the first object has an equal entry in the second. -/
def pyEqEntries : List (String × Value) → List (String × Value) → Bool
  | [], _ => true
  | (k, a) :: as, bs =>
    (match bs.lookup k with
      | some b => pyEq a b
      | none => false) && pyEqEntries as bs
end

end Value

/-- `dict == dict` on commands. -/
def CommandPayload.pyEq (a b : CommandPayload) : Bool :=
  a.length == b.length && Value.pyEqEntries a.entries b.entries

/-- The parts of Python's library whose results the model leaves open. -/
class PyLib where
  /-- `repr` of a float, which is also its JSON text. -/
  floatText : PyFloat → String
  /-- `str` of a list or dictionary. -/
  containerText : Value → String
  /-- `float` of a string, `none` when it raises `ValueError`. -/
  parseFloat : String → Option PyFloat
  /-- The hexadecimal SHA-256 digest of a UTF-8 text. -/
  sha256Hex : String → String

/-- A library that agrees with Python on small whole floats, on decimal digits read as floats, and on
the digests listed here. -/
@[reducible] def PyLib.sample : PyLib where
  floatText
    | .fin q => toString q.num ++ ".0"
    | .nan => "nan"
    | .posInf => "inf"
    | .negInf => "-inf"
  containerText := fun _ => ""
  parseFloat := fun s => s.toNat?.map fun n => .fin n
  sha256Hex := fun s =>
    if s = "k" then "8254c329a92850f6d539dd376f4816ee2764517da5e0235514af433164480d7a" else ""

variable [PyLib]

/-- `str(value)`. -/
def Value.text : Value → String
  | .null => "None"
  | .bool b => if b then "True" else "False"
  | .int i => toString i
  | .float x => PyLib.floatText x
  | .str s => s
  | v => PyLib.containerText v

/-- `str(value or "")`, where a missing value is `None`. -/
def orText : Option Value → String
  | some v => if v.truthy then v.text else ""
  | none => ""

/-- `str.isspace` on one character. -/
def isSpace (c : Char) : Bool :=
  let n := c.toNat
  (9 ≤ n && n ≤ 13) || (28 ≤ n && n ≤ 32) || n == 0x85 || n == 0xA0 || n == 0x1680 ||
    (0x2000 ≤ n && n ≤ 0x200A) || n == 0x2028 || n == 0x2029 || n == 0x202F || n == 0x205F ||
    n == 0x3000

/-- `str.strip()`. -/
def strip (s : String) : String :=
  String.ofList ((s.toList.dropWhile isSpace).reverse.dropWhile isSpace).reverse

/-- `str.lower()` on ASCII letters. It is only compared with names that no other letter lowers
into. -/
def lower (s : String) : String := String.ofList (s.toList.map Char.toLower)

/-- `_string_mapping(value)`: the dictionary behind an object, and nothing for other values. -/
def stringMapping : Option Value → Option (Dict String Value)
  | some (.obj es) => some (Dict.ofList es)
  | _ => none

/-- `_positive_integer(value)`: a positive `int`, and zero for everything else. -/
def positiveInteger : Option Value → Nat
  | some (.int i) => i.toNat
  | _ => 0

/-- The number of characters that stand for one character in an ASCII JSON string. -/
def jsonCharSize (c : Char) : Nat :=
  let n := c.toNat
  if n = 34 || n = 92 || n = 8 || n = 9 || n = 10 || n = 12 || n = 13 then 2
  else if 32 ≤ n && n ≤ 126 then 1
  else if n < 0x10000 then 6
  else 12

/-- The size of a JSON string literal. -/
def jsonStringSize (s : String) : Nat := 2 + (s.toList.map jsonCharSize).sum

mutual
/-- `len(compact_json(value).encode("utf-8"))`. -/
def jsonSize : Value → Nat
  | .null => 4
  | .bool b => if b then 4 else 5
  | .int i => (toString i).length
  | .float x => (PyLib.floatText x).length
  | .str s => jsonStringSize s
  | .list vs => 2 + jsonItemsSize vs + (vs.length - 1)
  | .obj es => 2 + jsonEntriesSize es + (es.length - 1)

/-- The size of the items of a list, without separators. -/
def jsonItemsSize : List Value → Nat
  | [] => 0
  | v :: vs => jsonSize v + jsonItemsSize vs

/-- The size of the entries of an object, without separators. -/
def jsonEntriesSize : List (String × Value) → Nat
  | [] => 0
  | (k, v) :: es => jsonStringSize k + 1 + jsonSize v + jsonEntriesSize es
end

omit [PyLib] in
/-- A dictionary read back from the object it was stored as is that dictionary. -/
@[simp] theorem stringMapping_obj (d : Dict String Value) :
    stringMapping (some (.obj d.entries)) = some d := by
  simp [stringMapping]

end VenusEvcharger
