import BoundSql.Proofs.Text.Numeral
import BoundSql.Value

/-!
# Values through JSON

The values that JSON has a form for (`Value.Portable`) are those without bytes and without doubles
that are not finite; the JSON values that are forms of values (`Json.Portable`) have no objects, no
integers beyond 64 bits, and no floating-point numbers that are not finite. Both are about every
item of a list, at any depth.

What `toJson` gives is a form in this sense for any value (`Json.portable_toJson`), also where it is
the form of another value, and `ofJson` reads a form as a value that has one
(`Json.Portable.ofJson`). On the two sides `toJson` and `ofJson` undo each other, integral doubles
and integers kept apart, and nowhere else (`json_round_trips_iff`).
-/

namespace BoundSql

/-- A value that JSON has a form for. -/
inductive Value.Portable : Value → Prop
  | null : Portable .null
  | bool (b : Bool) : Portable (.bool b)
  | int (i : Int64) : Portable (.int i)
  | double {x : Double} (h : x.isFinite = true) : Portable (.double x)
  | text (s : String) : Portable (.text s)
  | list {items : List Value} (h : ∀ item ∈ items, Portable item) : Portable (.list items)

/-- A JSON value that is the form of a value. -/
inductive Json.Portable : Json → Prop
  | null : Portable .null
  | bool (b : Bool) : Portable (.bool b)
  | int {i : ℤ} (hlow : -2 ^ 63 ≤ i) (hhigh : i < 2 ^ 63) : Portable (.int i)
  | float {x : Double} (h : x.isFinite = true) : Portable (.float x)
  | string (s : String) : Portable (.string s)
  | array {items : List Json} (h : ∀ item ∈ items, Portable item) : Portable (.array items)

open Value

/-! ## There and back -/

theorem Value.Portable.ofJson_toJson {v : Value} (h : v.Portable) : ofJson v.toJson = v := by
  induction h with
  | null => rfl
  | bool b => rfl
  | int i => exact ofJson_toJson_int i
  | double hfinite => rw [toJson, if_pos hfinite, ofJson]
  | text s => exact ofJson_toJson_text s
  | list _ ih =>
    rw [toJson, ofJson, itemsToJson_eq_map, itemsOfJson_eq_map, List.map_map]
    exact congrArg Value.list ((List.map_congr_left ih).trans (List.map_id _))

theorem Json.Portable.toJson_ofJson {j : Json} (h : j.Portable) : (ofJson j).toJson = j := by
  induction h with
  | null => rfl
  | bool b => rfl
  | int hlow hhigh =>
    rw [ofJson, if_pos (Text.fitsInt64_iff.2 ⟨hlow, hhigh⟩), toJson,
      Int64.toInt_ofInt_of_le hlow hhigh]
  | float hfinite => rw [ofJson, toJson, if_pos hfinite]
  | string s => rfl
  | array _ ih =>
    rw [ofJson, toJson, itemsOfJson_eq_map, itemsToJson_eq_map, List.map_map]
    exact congrArg Json.array ((List.map_congr_left ih).trans (List.map_id _))

/-! ## The two images -/

mutual

/-- What comes out of a value is the form of a value: of a text for bytes, and of null for a double
that is not finite. -/
theorem Json.portable_toJson : ∀ v : Value, v.toJson.Portable
  | .null => .null
  | .bool b => .bool b
  | .int i => .int i.le_toInt i.toInt_lt
  | .double x => by
    rw [toJson]
    split
    · exact .float ‹_›
    · exact .null
  | .text s => .string s
  | .bytes data => .string _
  | .list items => .array (portable_itemsToJson items)

theorem Json.portable_itemsToJson : ∀ items : List Value, ∀ j ∈ itemsToJson items, j.Portable
  | [], j, hj => by
    rw [itemsToJson] at hj
    exact absurd hj List.not_mem_nil
  | item :: rest, j, hj => by
    rw [itemsToJson] at hj
    obtain rfl | hj := List.mem_cons.1 hj
    · exact portable_toJson item
    · exact portable_itemsToJson rest j hj

end

theorem Json.Portable.ofJson {j : Json} (h : j.Portable) : (Value.ofJson j).Portable := by
  induction h with
  | null => exact .null
  | bool b => exact .bool b
  | int hlow hhigh =>
    rw [Value.ofJson, if_pos (Text.fitsInt64_iff.2 ⟨hlow, hhigh⟩)]
    exact .int _
  | float hfinite => exact .double hfinite
  | string s => exact .text s
  | array _ ih =>
    rw [Value.ofJson, itemsOfJson_eq_map]
    exact .list (List.forall_mem_map.2 ih)

/-- Values that come back from JSON as they were are exactly those that JSON has a form for, and
JSON values that come back from values as they were are exactly the forms of values. -/
theorem json_round_trips_iff :
    (∀ v : Value, ofJson v.toJson = v ↔ v.Portable) ∧
    ∀ j : Json, (ofJson j).toJson = j ↔ j.Portable := by
  refine ⟨fun v => ⟨fun h => ?_, fun h => h.ofJson_toJson⟩,
    fun j => ⟨fun h => ?_, fun h => h.toJson_ofJson⟩⟩
  · rw [← h]
    exact (Json.portable_toJson v).ofJson
  · rw [← h]
    exact Json.portable_toJson (ofJson j)

-- The integer 2 and the double 2 are told apart.
example : ofJson (Value.list [.int 2, .double ⟨0x4000000000000000⟩]).toJson =
    .list [.int 2, .double ⟨0x4000000000000000⟩] := by
  decide

end BoundSql
