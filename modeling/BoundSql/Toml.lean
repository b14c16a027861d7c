import BoundSql.Toml.Moment

/-!
# TOML values

A document is a table of named values. Floating-point numbers are checked when they are read and
then kept as written, since nothing here computes with them.
-/

namespace BoundSql

/-- A value of a TOML document. -/
inductive Toml where
  | string (s : String)
  | integer (i : Int)
  | boolean (b : Bool)
  /-- A floating-point number, as written. -/
  | float (text : String)
  | moment (m : Toml.Moment)
  | array (items : List Toml)
  | table (entries : List (String × Toml))
  deriving Inhabited

end BoundSql
