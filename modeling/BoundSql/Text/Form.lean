import BoundSql.Text.Blank
import BoundSql.Text.Percent

/-!
# Form-encoded pairs

The query part of a URL as names and values: pairs stand between `&`, a name ends at the first
`=`, `+` is a space, and the bytes are percent-encoded UTF-8. Empty pairs are skipped.
-/

namespace BoundSql.Text

/-- One name or value: `+` is a space, then percent decoding, then UTF-8. -/
def formDecode (s : List Char) : List Char :=
  decodeLossy (percentDecode (utf8 (s.map fun c => if c = '+' then ' ' else c)))

/-- The parts of a text before and after the first `mark`, if it has one. -/
def cutAt? (mark : Char) : List Char → Option (List Char × List Char)
  | [] => none
  | c :: rest =>
    if c = mark then some ([], rest)
    else (cutAt? mark rest).map fun (before, after) => (c :: before, after)

/-- The name and value of one pair; without `=` the value is empty. -/
def formPair (s : List Char) : String × String :=
  match cutAt? '=' s with
  | some (name, value) => (String.ofList (formDecode name), String.ofList (formDecode value))
  | none => (String.ofList (formDecode s), "")

/-- The pairs of a form-encoded text, in order. -/
def formPairs (s : List Char) : List (String × String) :=
  (fields (· == '&') s).map formPair

end BoundSql.Text
