import BoundSql.Toml.Quoted
import BoundSql.Toml.Scalar
import BoundSql.Toml.Table

/-!
# Reading TOML

`Toml.read?` reads a document line by line: a header, an array header, or a key and a value, each
with blanks and a comment allowed. Arrays and inline tables may go on over line ends, with comments
and a comma at the end, and stand inside each other up to `maxDepth`. The recursion is bounded by
the length of the text.
-/

namespace BoundSql.Toml

/-- What follows a comment, which begins with `#` and ends before a line end. -/
def afterComment? (s : List Char) : Option (List Char) :=
  let isInside (c : Char) : Bool := c != '\n' && c != '\r'
  if (s.takeWhile isInside).any isControl then none else some (s.dropWhile isInside)

/-- What follows blanks, line ends and comments. -/
def skipFiller? : Nat → List Char → Option (List Char)
  | 0, _ => none
  | fuel + 1, s =>
    match s.dropWhile isSpace with
    | '#' :: rest => do skipFiller? fuel (← afterComment? rest)
    | '\n' :: rest => skipFiller? fuel rest
    | '\r' :: '\n' :: rest => skipFiller? fuel rest
    | rest => some rest

/-- How many arrays and inline tables may stand inside each other. -/
def maxDepth : Nat := 80

mutual

/-- A value with at most `depth` arrays and inline tables inside each other, and the rest of the
text. -/
def value? : Nat → Nat → List Char → Option (Toml × List Char)
  | 0, _, _ => none
  | fuel + 1, depth, s =>
    match s with
    | '"' :: _ => (string? s).map fun (s, rest) => (.string s, rest)
    | '\'' :: _ => (string? s).map fun (s, rest) => (.string s, rest)
    | '[' :: rest =>
      if depth = 0 then none
      else do
        let (items, rest) ← items? fuel (depth - 1) rest
        return (.array items, rest)
    | '\x7b' :: rest =>
      if depth = 0 then none
      else do
        let (entries, rest) ← inlineEntries? fuel (depth - 1) [] rest
        return (.table (finishEntries entries), rest)
    | s =>
      let (stretch, rest) := takeScalar s
      (ofScalar? stretch).map fun v => (v, rest)

/-- The items of an array up to its closing bracket. -/
def items? : Nat → Nat → List Char → Option (List Toml × List Char)
  | 0, _, _ => none
  | fuel + 1, depth, s => do
    match ← skipFiller? (s.length + 1) s with
    | ']' :: rest => return ([], rest)
    | rest =>
      let (item, rest) ← value? fuel depth rest
      match ← skipFiller? (rest.length + 1) rest with
      | ',' :: rest =>
        let (items, rest) ← items? fuel depth rest
        return (item :: items, rest)
      | ']' :: rest => return ([item], rest)
      | _ => none

/-- The entries of an inline table up to its closing brace. -/
def inlineEntries? : Nat → Nat → Entries → List Char → Option (Entries × List Char)
  | 0, _, _, _ => none
  | fuel + 1, depth, entries, s => do
    match ← skipFiller? (s.length + 1) s with
    | '\x7d' :: rest => return (entries, rest)
    | rest =>
      let (path, rest) ← key? (rest.length + 1) rest
      match ← skipFiller? (rest.length + 1) rest with
      | '=' :: rest =>
        let (v, rest) ← value? fuel depth (← skipFiller? (rest.length + 1) rest)
        let entries ← insert? v true path entries
        match ← skipFiller? (rest.length + 1) rest with
        | ',' :: rest => inlineEntries? fuel depth entries rest
        | '\x7d' :: rest => return (entries, rest)
        | _ => none
      | _ => none

end

/-- What follows the blanks and the comment at the end of a line, and the line end. -/
def endOfLine? (s : List Char) : Option (List Char) := do
  let rest ←
    match s.dropWhile isSpace with
    | '#' :: rest => afterComment? rest
    | rest => some rest
  if rest.isEmpty then some [] else afterNewline? rest

/-- Reads one line. -/
def line? (r : Reader) (s : List Char) : Option (Reader × List Char) := do
  match s.dropWhile isSpace with
  | '[' :: '[' :: rest =>
    let (path, rest) ← key? (rest.length + 1) rest
    match rest with
    | ']' :: ']' :: rest => return (← r.open? path true, ← endOfLine? rest)
    | _ => none
  | '[' :: rest =>
    let (path, rest) ← key? (rest.length + 1) rest
    match rest with
    | ']' :: rest => return (← r.open? path false, ← endOfLine? rest)
    | _ => none
  | rest =>
    match endOfLine? rest with
    | some rest => return (r, rest)
    | none =>
      let (path, rest) ← key? (rest.length + 1) rest
      match rest with
      | '=' :: rest =>
        let rest := rest.dropWhile isSpace
        let (v, rest) ← value? (rest.length + 1) maxDepth rest
        return (← r.enter? path v, ← endOfLine? rest)
      | _ => none

/-- Reads lines up to the end of the text. -/
def lines? : Nat → Reader → List Char → Option Reader
  | _, r, [] => some r
  | 0, _, _ => none
  | fuel + 1, r, s => do
    let (r, rest) ← line? r s
    lines? fuel r rest

/-- The document that a text writes, a table. -/
def read? (text : String) : Option Toml := do
  let s :=
    match text.toList with
    | '\uFEFF' :: rest => rest
    | s => s
  (← lines? (s.length + 1) {} s).finish?

end BoundSql.Toml
