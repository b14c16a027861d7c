import BoundSql.Number.Written
import BoundSql.OrderedMap
import BoundSql.Text.Hex

/-!
# JSON

JSON values with integers and floating-point numbers apart, and their compact text. Members of an
object are printed in the order they have; `sorted` puts the members of every object in the order
of their names by code point, of a repeated name the last value.
-/

namespace BoundSql

/-- A JSON value. -/
inductive Json where
  | null
  | bool (b : Bool)
  | int (i : Int)
  | float (x : Double)
  | string (s : String)
  | array (items : List Json)
  | object (members : List (String × Json))
  deriving Inhabited

namespace Json

/-- A character inside a quoted text. -/
def escapeChar (c : Char) : List Char :=
  if c = '"' then ['\\', '"']
  else if c = '\\' then ['\\', '\\']
  else if c = '\x08' then ['\\', 'b']
  else if c = '\x0c' then ['\\', 'f']
  else if c = '\n' then ['\\', 'n']
  else if c = '\r' then ['\\', 'r']
  else if c = '\t' then ['\\', 't']
  else if c.toNat < 0x20 then '\\' :: 'u' :: Text.hexNat 4 c.toNat
  else [c]

/-- A text in quotes, with only quotes, backslashes and control characters escaped. -/
def quote (s : List Char) : List Char :=
  '"' :: s.flatMap escapeChar ++ ['"']

/-- A floating-point number; JSON has none that is not finite, so these are `null`. -/
def floatText (x : Double) : List Char :=
  if x.isFinite then Number.jsonStyle.write x else "null".toList

/-- The digits of an integer, with its sign. -/
def intText (i : Int) : List Char :=
  if i < 0 then '-' :: Nat.toDigits 10 i.natAbs else Nat.toDigits 10 i.natAbs

mutual

/-- The characters of the compact text. -/
def chars : Json → List Char
  | .null => "null".toList
  | .bool true => "true".toList
  | .bool false => "false".toList
  | .int i => intText i
  | .float x => floatText x
  | .string s => quote s.toList
  | .array items => '[' :: itemChars items ++ [']']
  | .object members => '\x7b' :: memberChars members ++ ['\x7d']

/-- The items of an array between commas. -/
def itemChars : List Json → List Char
  | [] => []
  | [item] => chars item
  | item :: rest => chars item ++ ',' :: itemChars rest

/-- The members of an object between commas. -/
def memberChars : List (String × Json) → List Char
  | [] => []
  | [(name, value)] => quote name.toList ++ ':' :: chars value
  | (name, value) :: rest => quote name.toList ++ ':' :: chars value ++ ',' :: memberChars rest

end

/-- The compact text of a JSON value. -/
def text (j : Json) : String :=
  String.ofList j.chars

/-- Members in the order of their names, of a repeated name the last value. -/
def sortMembers (members : List (String × Json)) : List (String × Json) :=
  (OrderedMap.ofList members).entries.mergeSort fun a b => decide (a.1 ≤ b.1)

mutual

/-- The same value with the members of every object in the order of their names. -/
def sorted : Json → Json
  | .array items => .array (sortedItems items)
  | .object members => .object (sortMembers (sortedMembers members))
  | other => other

/-- `sorted` on every item. -/
def sortedItems : List Json → List Json
  | [] => []
  | item :: rest => sorted item :: sortedItems rest

/-- `sorted` on every member's value. -/
def sortedMembers : List (String × Json) → List (String × Json)
  | [] => []
  | (name, value) :: rest => (name, sorted value) :: sortedMembers rest

end

end Json

end BoundSql
