import BoundSql.Text.Blank
import BoundSql.Text.Letter

/-!
# Statements that return rows

Whether a statement returns rows is told from its text: from its first word, or from the word
`RETURNING` between spaces.
-/

namespace BoundSql

/-- The first words of the statements that return rows. -/
def rowKeywords : List String :=
  ["SELECT", "WITH", "SHOW", "PRAGMA", "EXPLAIN", "VALUES", "DESCRIBE"]

/-- The first word of a text, which a blank or an opening parenthesis ends. -/
def firstWord (s : List Char) : List Char :=
  (Text.fields (fun c => Text.isBlank c || c == '(') s).headD []

/-- Whether a statement returns rows. -/
def returnsRows (sql : String) : Bool :=
  let upper := Text.upperCase (Text.trimStart sql.toList)
  String.ofList (firstWord upper) ∈ rowKeywords || Text.contains " RETURNING ".toList upper

end BoundSql
