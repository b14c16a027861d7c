import BoundSql.Json
import BoundSql.Number.Reading
import BoundSql.Text.Blank

/-!
# Values

The values that are bound to placeholders and read from rows. Lists exist on the binding side
only: operands of `IN` and `BETWEEN`, and bindings that stand for one placeholder per element.

Readings (`toBool?`, `toInt64?`, `toDouble?`, `toText?`) convert where there is one sensible
answer. `display` is the plain text of a value; `toJson` and `ofJson` go to JSON and back.

* `ofJson_toJson_text`, `ofJson_toJson_int`: texts and integers survive a trip through JSON.
-/

namespace BoundSql

/-- A value of a statement or of a row. -/
inductive Value where
  | null
  | bool (b : Bool)
  | int (i : Int64)
  | double (x : Double)
  | text (s : String)
  | bytes (data : List UInt8)
  | list (items : List Value)
  deriving Inhabited

namespace Value

/-- Whether the value is null. -/
def isNull : Value → Bool
  | null => true
  | _ => false

/-- Whether the value is a list. -/
def isList : Value → Bool
  | list _ => true
  | _ => false

/-- The words for true, in any case. The case of other letters than ASCII does not matter: none of
them has one of these words' letters as its lower case. -/
def trueWords : List String :=
  ["true", "t", "yes", "y", "1"]

/-- The words for false, in any case. -/
def falseWords : List String :=
  ["false", "f", "no", "n", "0"]

/-- The value as a truth value: itself, an integer by whether it is zero, a word of either list. -/
def toBool? : Value → Option Bool
  | bool b => some b
  | int i => some (i ≠ 0)
  | text s =>
    let word := String.ofList (Text.lowerCase s.toList)
    if word ∈ trueWords then some true else if word ∈ falseWords then some false else none
  | _ => none

/-- The value as an integer of 64 bits: a double must be integral and is brought into range, a text
must be a numeral between blanks. -/
def toInt64? : Value → Option Int64
  | int i => some i
  | bool b => some (if b then 1 else 0)
  | double x => x.toInt64?
  | text s => Text.readInt64? (Text.trim s.toList)
  | _ => none

/-- The value as a double: an integer is rounded, a text must be a numeral between blanks. -/
def toDouble? : Value → Option Double
  | double x => some x
  | int i => some (Double.ofInt i.toInt)
  | text s => Number.readDouble? (Text.trim s.toList)
  | _ => none

/-- The text of a text value. -/
def toText? : Value → Option String
  | text s => some s
  | _ => none

/-- An integer of 64 bits without sign: a text where the signed ones end. -/
def ofUInt64 (n : UInt64) : Value :=
  if n.toNat < 2 ^ 63 then int (Int64.ofInt n.toNat) else text (toString n.toNat)

mutual

/-- The plain text of a value. -/
def display : Value → String
  | null => "NULL"
  | bool true => "true"
  | bool false => "false"
  | int i => toString i.toInt
  | double x => String.ofList x.display
  | text s => s
  | bytes data => "<binary:" ++ toString data.length ++ " bytes>"
  | list items => "[" ++ displayItems items ++ "]"

/-- The plain texts of values between commas and spaces. -/
def displayItems : List Value → String
  | [] => ""
  | [item] => display item
  | item :: rest => display item ++ ", " ++ displayItems rest

end

mutual

/-- The value in JSON: bytes as upper-case hexadecimal digits, a double that is not finite as
null. -/
def toJson : Value → Json
  | null => .null
  | bool b => .bool b
  | int i => .int i.toInt
  | double x => if x.isFinite then .float x else .null
  | text s => .string s
  | bytes data => .string (String.ofList (Text.hexBytes .upper data))
  | list items => .array (itemsToJson items)

/-- `toJson` on every item. -/
def itemsToJson : List Value → List Json
  | [] => []
  | item :: rest => toJson item :: itemsToJson rest

end

mutual

/-- The value of a JSON value: an integer beyond 64 bits is a double, and an object is the text of
its members in the order of their names. -/
def ofJson : Json → Value
  | .null => null
  | .bool b => bool b
  | .int i => if Text.fitsInt64 i then int (Int64.ofInt i) else double (Double.ofInt i)
  | .float x => double x
  | .string s => text s
  | .array items => list (itemsOfJson items)
  | .object members => text (Json.object members).sorted.text

/-- `ofJson` on every item. -/
def itemsOfJson : List Json → List Value
  | [] => []
  | item :: rest => ofJson item :: itemsOfJson rest

end

theorem itemsToJson_eq_map (items : List Value) : itemsToJson items = items.map toJson := by
  induction items with
  | nil => simp [itemsToJson]
  | cons item rest ih => simp [itemsToJson, ih]

theorem itemsOfJson_eq_map (items : List Json) : itemsOfJson items = items.map ofJson := by
  induction items with
  | nil => simp [itemsOfJson]
  | cons item rest ih => simp [itemsOfJson, ih]

theorem ofJson_toJson_text (s : String) : ofJson (toJson (text s)) = text s := by
  simp [toJson, ofJson]

theorem fitsInt64_toInt (i : Int64) : Text.fitsInt64 i.toInt = true := by
  have h₁ := i.le_toInt
  have h₂ := i.toInt_lt
  simp only [Text.fitsInt64, Bool.and_eq_true, decide_eq_true_eq]
  omega

theorem ofJson_toJson_int (i : Int64) : ofJson (toJson (int i)) = int i := by
  simp [toJson, ofJson, fitsInt64_toInt]

end Value

mutual

/-- Equality of values is decided constructor by constructor. -/
def Value.decEq : (a b : Value) → Decidable (a = b)
  | .null, .null => isTrue rfl
  | .bool a, .bool b => decidable_of_iff (a = b) (by simp)
  | .int a, .int b => decidable_of_iff (a = b) (by simp)
  | .double a, .double b => decidable_of_iff (a = b) (by simp)
  | .text a, .text b => decidable_of_iff (a = b) (by simp)
  | .bytes a, .bytes b => decidable_of_iff (a = b) (by simp)
  | .list a, .list b =>
    match Value.decEqItems a b with
    | isTrue h => isTrue (by rw [h])
    | isFalse h => isFalse (by simpa using h)
  | .null, .bool _ | .null, .int _ | .null, .double _ | .null, .text _ | .null, .bytes _
  | .null, .list _ | .bool _, .null | .bool _, .int _ | .bool _, .double _ | .bool _, .text _
  | .bool _, .bytes _ | .bool _, .list _ | .int _, .null | .int _, .bool _ | .int _, .double _
  | .int _, .text _ | .int _, .bytes _ | .int _, .list _ | .double _, .null | .double _, .bool _
  | .double _, .int _ | .double _, .text _ | .double _, .bytes _ | .double _, .list _
  | .text _, .null | .text _, .bool _ | .text _, .int _ | .text _, .double _ | .text _, .bytes _
  | .text _, .list _ | .bytes _, .null | .bytes _, .bool _ | .bytes _, .int _
  | .bytes _, .double _ | .bytes _, .text _ | .bytes _, .list _ | .list _, .null
  | .list _, .bool _ | .list _, .int _ | .list _, .double _ | .list _, .text _
  | .list _, .bytes _ => isFalse (by simp)

/-- Equality of lists of values is decided item by item. -/
def Value.decEqItems : (a b : List Value) → Decidable (a = b)
  | [], [] => isTrue rfl
  | [], _ :: _ => isFalse (by simp)
  | _ :: _, [] => isFalse (by simp)
  | a :: as, b :: bs =>
    match Value.decEq a b, Value.decEqItems as bs with
    | isTrue h, isTrue hs => isTrue (by rw [h, hs])
    | isFalse h, _ => isFalse (by simp [h])
    | _, isFalse hs => isFalse (by simp [hs])

end

instance : DecidableEq Value := Value.decEq

end BoundSql
