import BoundSql.Text.Hex
import BoundSql.Toml

/-!
# Strings and keys of TOML

Strings in double quotes have escapes, strings in single quotes have none, and three quotes hold
more than one line. A key is a path of names between dots; a name is bare or a string on one line.
Each reader starts after the opening quotes and returns what it read and the rest of the text.
-/

namespace BoundSql.Toml

open BoundSql.Text

/-- Whether a character may not stand in a string, a tab excepted. -/
def isControl (c : Char) : Bool :=
  (c.toNat < 0x20 && c != '\t') || c.toNat == 0x7F

/-- The character whose code point is written by exactly `width` hexadecimal digits, and the
rest. -/
def codePoint? (width : Nat) (s : List Char) : Option (Char × List Char) := do
  let digits := s.take width
  let n ← if digits.length = width then readHexNat? digits else none
  if n < 0xD800 || (0xE000 ≤ n && n < 0x110000) then some (Char.ofNat n, s.drop width) else none

/-- The character of an escape, after its backslash, and the rest. -/
def escape? : List Char → Option (Char × List Char)
  | 'b' :: rest => some ('\x08', rest)
  | 't' :: rest => some ('\t', rest)
  | 'n' :: rest => some ('\n', rest)
  | 'f' :: rest => some ('\x0c', rest)
  | 'r' :: rest => some ('\r', rest)
  | 'e' :: rest => some ('\x1b', rest)
  | '"' :: rest => some ('"', rest)
  | '\\' :: rest => some ('\\', rest)
  | 'x' :: rest => codePoint? 2 rest
  | 'u' :: rest => codePoint? 4 rest
  | 'U' :: rest => codePoint? 8 rest
  | _ => none

/-- A string in double quotes, on one line. -/
def basicString? : Nat → List Char → Option (List Char × List Char)
  | 0, _ => none
  | _ + 1, [] => none
  | _ + 1, '"' :: rest => some ([], rest)
  | fuel + 1, '\\' :: rest => do
    let (c, rest) ← escape? rest
    let (s, rest) ← basicString? fuel rest
    return (c :: s, rest)
  | fuel + 1, c :: rest =>
    if isControl c then none
    else do
      let (s, rest) ← basicString? fuel rest
      return (c :: s, rest)

/-- A string in single quotes, on one line. -/
def literalString? : List Char → Option (List Char × List Char)
  | [] => none
  | '\'' :: rest => some ([], rest)
  | c :: rest =>
    if isControl c then none
    else (literalString? rest).map fun (s, rest) => (c :: s, rest)

/-- What follows a line end at the start of a text. -/
def afterNewline? : List Char → Option (List Char)
  | '\n' :: rest => some rest
  | '\r' :: '\n' :: rest => some rest
  | _ => none

/-- Whether a character separates words on a line. -/
def isSpace (c : Char) : Bool :=
  c == ' ' || c == '\t'

/-- A text without the spaces and line ends at its start. -/
def skipLines : List Char → List Char
  | '\r' :: '\n' :: rest => skipLines rest
  | '\n' :: rest => skipLines rest
  | c :: rest => if isSpace c then skipLines rest else c :: rest
  | [] => []

/-- What follows a backslash at the end of a line: the next character that is no blank. -/
def afterContinuation? (s : List Char) : Option (List Char) :=
  (afterNewline? (s.dropWhile isSpace)).map skipLines

/-- Three closing quotes, with up to two quotes before them that belong to the string. -/
def closing? (quote : Char) (s : List Char) : Option (List Char × List Char) :=
  let quotes := s.takeWhile (· == quote)
  if quotes.length < 3 then none
  else
    let inside := min (quotes.length - 3) 2
    some (List.replicate inside quote, s.drop (inside + 3))

/-- A string in three quotes of a kind; only double quotes have escapes. -/
def longString? (quote : Char) : Nat → List Char → Option (List Char × List Char)
  | 0, _ => none
  | fuel + 1, s =>
    match closing? quote s with
    | some result => some result
    | none =>
      match s with
      | [] => none
      | '\\' :: rest =>
        if quote = '"' then
          match afterContinuation? rest with
          | some rest => longString? quote fuel rest
          | none => do
            let (c, rest) ← escape? rest
            let (s, rest) ← longString? quote fuel rest
            return (c :: s, rest)
        else (longString? quote fuel rest).map fun (s, rest) => ('\\' :: s, rest)
      | '\r' :: '\n' :: rest =>
        (longString? quote fuel rest).map fun (s, rest) => ('\r' :: '\n' :: s, rest)
      | '\n' :: rest => (longString? quote fuel rest).map fun (s, rest) => ('\n' :: s, rest)
      | c :: rest =>
        if isControl c then none
        else (longString? quote fuel rest).map fun (s, rest) => (c :: s, rest)

/-- A text without one line end at its start. -/
def skipNewline (s : List Char) : List Char :=
  (afterNewline? s).getD s

/-- A string of any kind, from its opening quotes. -/
def string? (s : List Char) : Option (String × List Char) :=
  let found :=
    match s with
    | '"' :: '"' :: '"' :: rest => longString? '"' (rest.length + 1) (skipNewline rest)
    | '\'' :: '\'' :: '\'' :: rest => longString? '\'' (rest.length + 1) (skipNewline rest)
    | '"' :: rest => basicString? (rest.length + 1) rest
    | '\'' :: rest => literalString? rest
    | _ => none
  found.map fun (s, rest) => (String.ofList s, rest)

/-- Whether a character may stand in a bare name. -/
def isBareChar (c : Char) : Bool :=
  c.isAlphanum || c == '_' || c == '-'

/-- One name of a key. -/
def name? (s : List Char) : Option (String × List Char) :=
  let found :=
    match s with
    | '"' :: rest => basicString? (rest.length + 1) rest
    | '\'' :: rest => literalString? rest
    | s =>
      let (name, rest) := s.span isBareChar
      if name.isEmpty then none else some (name, rest)
  found.map fun (s, rest) => (String.ofList s, rest)

/-- The path of a key, and the rest with no space before it. -/
def key? : Nat → List Char → Option (List String × List Char)
  | 0, _ => none
  | fuel + 1, s => do
    let (name, rest) ← name? (s.dropWhile isSpace)
    match rest.dropWhile isSpace with
    | '.' :: rest =>
      let (path, rest) ← key? fuel rest
      return (name :: path, rest)
    | rest => return ([name], rest)

end BoundSql.Toml
