import VenusEvcharger.Python.Value
import Mathlib.Data.Rat.Floor

/-!
# JSON in the native gateway

The Rust adapter reads commands as `serde_json` values. A number is an integer literal or a finite float, and
`as_u64`, `as_i64` and `as_f64` are the readings that the adapter uses. An integer literal beyond 64 bits is
no integer for these readings.

Scope: a float is the rational it denotes, the conversion of an integer to a float is exact, and the sign of
zero is not represented.
-/

namespace VenusEvcharger.NativeGateway

/-- A `serde_json::Value`. An object lists its entries by key. -/
inductive Json where
  | null
  | bool (b : Bool)
  | int (i : Int)
  | float (x : ℚ)
  | string (s : String)
  | array (items : List Json)
  | object (entries : List (String × Json))

/-- `Map<String, Value>`. -/
abbrev JsonMap := List (String × Json)

namespace Json

def asStr : Json → Option String
  | string s => some s
  | _ => none

def asBool : Json → Option Bool
  | bool b => some b
  | _ => none

def asObject : Json → Option JsonMap
  | object entries => some entries
  | _ => none

def asU64 : Json → Option Nat
  | int i => if 0 ≤ i ∧ i < 2 ^ 64 then some i.toNat else none
  | _ => none

def asI64 : Json → Option Int
  | int i => if -2 ^ 63 ≤ i ∧ i < 2 ^ 63 then some i else none
  | _ => none

def asF64 : Json → Option ℚ
  | int i => some i
  | float x => some x
  | _ => none

end Json

namespace JsonMap

/-- `command.get(field)`. -/
def get? (command : JsonMap) (field : String) : Option Json := command.lookup field

/-- `command.get(field).and_then(Value::as_str)`. -/
def text? (command : JsonMap) (field : String) : Option String := (command.get? field).bind Json.asStr

/-- `command.get(field).and_then(Value::as_f64)`. -/
def number? (command : JsonMap) (field : String) : Option ℚ := (command.get? field).bind Json.asF64

/-- `object(command, field)`. -/
def object? (command : JsonMap) (field : String) : Option JsonMap := (command.get? field).bind Json.asObject

end JsonMap

/-- The digits of a decimal number without a sign. -/
def decimalDigits (digits : List Char) : Option Nat :=
  if digits = [] then none
  else digits.foldl (fun value digit =>
    value.bind fun n => if digit.isDigit then some (10 * n + (digit.toNat - '0'.toNat)) else none) (some 0)

/-- A decimal number as `str::parse` reads unsigned integers, a plus sign included, of any size. -/
def parseUnsigned (text : String) : Option Nat :=
  match text.toList with
  | '+' :: digits => decimalDigits digits
  | digits => decimalDigits digits

end VenusEvcharger.NativeGateway
