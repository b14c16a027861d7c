import BoundSql.Text.Blank
import BoundSql.Text.Hex
import BoundSql.Text.Numeral
import BoundSql.Value

/-!
# Commands of the embedded database

The embedded database knows one table, `t`, with a generated `id` and a `name`, and few commands:
evaluating terms without a table, creating the table, inserting a name, changing and deleting rows,
and selecting them. `Command.read?` reads a command from SQL with `?` for parameters; keywords and
bare names may have any case.
-/

namespace BoundSql.Embedded

/-- A token of SQL. -/
inductive Token where
  /-- A bare name or keyword. -/
  | word (s : String)
  /-- A quoted name. -/
  | name (s : String)
  | text (s : String)
  /-- An integer without sign. -/
  | integer (i : Int)
  /-- A parameter, by its place among the parameters. -/
  | parameter (index : Nat)
  | symbol (c : Char)
  deriving DecidableEq, Repr

/-- The characters that a bare name may begin with: ASCII letters, `_`, and all beyond ASCII. -/
def isWordStart (c : Char) : Bool :=
  Text.isNameStart c || 0x80 ≤ c.toNat

/-- The characters that a bare name may hold: also ASCII digits and `$`. -/
def isWordChar (c : Char) : Bool :=
  Text.isNameChar c || c == '$' || 0x80 ≤ c.toNat

/-- A quoted stretch after its opening quote, with doubled quotes read as one, and the rest. -/
def takeUntil (quote : Char) : List Char → Option (List Char × List Char)
  | [] => none
  | c :: rest =>
    if c = quote then
      match rest with
      | [] => some ([], [])
      | d :: others =>
        if d = quote then (takeUntil quote others).map fun (s, after) => (quote :: s, after)
        else some ([], d :: others)
    else (takeUntil quote rest).map fun (s, after) => (c :: s, after)

/-- A name after its opening bracket, and the rest. -/
def takeBracketed (s : List Char) : Option (List Char × List Char) :=
  match s.dropWhile (· != ']') with
  | [] => none
  | _ :: rest => some (s.takeWhile (· != ']'), rest)

/-- What follows a comment between `/*` and `*/`, after its opening. -/
def afterComment : List Char → List Char
  | [] => []
  | '*' :: '/' :: rest => rest
  | _ :: rest => afterComment rest

/-- The integer that a stretch writes: decimal digits, or hexadecimal digits of a number of 64 bits
in two's complement; single underscores may stand between digits. -/
def integerOf? (s : List Char) : Option Int :=
  let isHexDigit (c : Char) : Bool := (Text.hexValue? c).isSome
  if s.head? = some '0' && (s[1]? = some 'x' || s[1]? = some 'X') then do
    let n ← Text.readHexNat? (← Text.digitsWithUnderscores? isHexDigit (s.drop 2))
    if n < 2 ^ 64 then some (Int64.ofNat n).toInt else none
  else (Text.digitsWithUnderscores? Char.isDigit s).map fun digits => Text.numeralValue digits

/-- The tokens of a text after a number of parameters. -/
def tokens? : Nat → Nat → List Char → Option (List Token)
  | _, _, [] => some []
  | 0, _, _ => none
  | fuel + 1, index, c :: rest =>
    if c = '\uFEFF' then tokens? fuel index rest
    else if Text.isAsciiBlank c && c != '\x0b' then
      tokens? fuel index (rest.dropWhile Text.isAsciiBlank)
    else if c = '-' && rest.head? = some '-' then
      tokens? fuel index (rest.dropWhile (· != '\n'))
    else if c = '/' && rest.head? = some '*' then tokens? fuel index (afterComment (rest.drop 1))
    else if isWordStart c then
      let (word, rest) := (c :: rest).span isWordChar
      (tokens? fuel index rest).map (.word (String.ofList word) :: ·)
    else if c.isDigit then do
      let (digits, rest) := (c :: rest).span isWordChar
      return .integer (← integerOf? digits) :: (← tokens? fuel index rest)
    else if c = '?' then (tokens? fuel (index + 1) rest).map (.parameter index :: ·)
    else if c = '\'' then do
      let (s, rest) ← takeUntil c rest
      return .text (String.ofList s) :: (← tokens? fuel index rest)
    else if c = '"' || c = '\x60' then do
      let (s, rest) ← takeUntil c rest
      return .name (String.ofList s) :: (← tokens? fuel index rest)
    else if c = '[' then do
      let (s, rest) ← takeBracketed rest
      return .name (String.ofList s) :: (← tokens? fuel index rest)
    else (tokens? fuel index rest).map (.symbol c :: ·)

/-- A value in a command: a parameter by its place, or a constant. -/
inductive Term where
  | parameter (index : Nat)
  | constant (value : Value)
  deriving DecidableEq

/-- Which rows a command is about. -/
inductive Selection where
  | all
  /-- The row with an identifier. -/
  | equal (id : Term)
  /-- The rows with one of several identifiers. -/
  | among (ids : List Term)
  deriving DecidableEq

/-- How many rows are skipped, and how many are then taken. -/
structure Limit where
  skip : Term
  take : Term
  deriving DecidableEq

/-- A command. -/
inductive Command where
  | evaluate (items : List (Term × String))
  | createTable
  | insert (name : Term) (returning : Bool)
  | update (name : Term) (selection : Selection)
  | delete (selection : Selection)
  /-- Columns of rows. -/
  | select (columns : List String) (selection : Selection) (limit : Option Limit)
  deriving DecidableEq

/-- What follows keywords, in any case, at the start of tokens. -/
def keywords? : List String → List Token → Option (List Token)
  | [], tokens => some tokens
  | keyword :: others, .word s :: rest =>
    if String.ofList (Text.upperCase s.toList) = keyword then keywords? others rest else none
  | _, _ => none

/-- What follows a symbol at the start of tokens. -/
def symbol? (c : Char) : List Token → Option (List Token)
  | .symbol d :: rest => if d = c then some rest else none
  | _ => none

/-- An identifier, bare or quoted. -/
def identifier? : List Token → Option (String × List Token)
  | .word s :: rest => some (s, rest)
  | .name s :: rest => some (s, rest)
  | .text s :: rest => some (s, rest)
  | _ => none

/-- What follows one given identifier, in any case. -/
def named? (name : String) (tokens : List Token) : Option (List Token) := do
  let (s, rest) ← identifier? tokens
  if String.ofList (Text.lowerCase s.toList) = name then some rest else none

/-- An integer, or the double nearest to it when it does not fit in 64 bits. -/
def integerValue (i : Int) : Value :=
  Value.ofJson (.int i)

/-- An integer with any signs before it. -/
def integer? : List Token → Option (Int × List Token)
  | .integer i :: rest => some (i, rest)
  | .symbol '-' :: rest => (integer? rest).map fun (i, rest) => (-i, rest)
  | .symbol '+' :: rest => integer? rest
  | _ => none

/-- A term. -/
def term? : List Token → Option (Term × List Token)
  | .parameter index :: rest => some (.parameter index, rest)
  | .text s :: rest => some (.constant (.text s), rest)
  | tokens =>
    match keywords? ["NULL"] tokens with
    | some rest => some (.constant .null, rest)
    | none => (integer? tokens).map fun (i, rest) => (.constant (integerValue i), rest)

/-- Things between commas, at least one. -/
def separated? {α : Type} (one? : List Token → Option (α × List Token)) :
    Nat → List Token → Option (List α × List Token)
  | 0, _ => none
  | fuel + 1, tokens => do
    let (item, rest) ← one? tokens
    match symbol? ',' rest with
    | some rest =>
      let (items, rest) ← separated? one? fuel rest
      return (item :: items, rest)
    | none => return ([item], rest)

/-- A term under a name. -/
def item? (tokens : List Token) : Option ((Term × String) × List Token) := do
  let (term, rest) ← term? tokens
  let rest ← keywords? ["AS"] rest
  let (name, rest) ← identifier? rest
  return ((term, name), rest)

/-- A column of the table, with or without the table's name before it. A text is no column. -/
def column? (tokens : List Token) : Option (String × List Token) :=
  let tokens := ((named? "t" tokens).bind (symbol? '.')).getD tokens
  match tokens with
  | .text _ :: _ => none
  | tokens =>
    match named? "id" tokens, named? "name" tokens with
    | some rest, _ => some ("id", rest)
    | none, some rest => some ("name", rest)
    | none, none => none

/-- A column of the table, or all of them. -/
def columns? (tokens : List Token) : Option (List String × List Token) :=
  match symbol? '*' tokens with
  | some rest => some (["id", "name"], rest)
  | none => (column? tokens).map fun (column, rest) => ([column], rest)

/-- Terms in parentheses, after the opening one. -/
def terms? (tokens : List Token) : Option (List Term × List Token) :=
  match symbol? ')' tokens with
  | some rest => some ([], rest)
  | none => do
    let (terms, rest) ← separated? term? tokens.length tokens
    return (terms, ← symbol? ')' rest)

/-- The condition of a command, if there is one. -/
def selection? (tokens : List Token) : Option (Selection × List Token) :=
  match keywords? ["WHERE"] tokens with
  | none => some (.all, tokens)
  | some rest => do
    let (column, rest) ← column? rest
    if column != "id" then none
    else
      match symbol? '=' rest with
      | some rest =>
        let (id, rest) ← term? ((symbol? '=' rest).getD rest)
        return (.equal id, rest)
      | none =>
        let (ids, rest) ← terms? (← symbol? '(' (← keywords? ["IN"] rest))
        return (.among ids, rest)

/-- The limit of a command, if there is one: what is skipped stands before a comma, or after a
keyword. -/
def limit? (tokens : List Token) : Option (Option Limit × List Token) :=
  match keywords? ["LIMIT"] tokens with
  | none => some (none, tokens)
  | some rest => do
    let (first, rest) ← term? rest
    match symbol? ',' rest, keywords? ["OFFSET"] rest with
    | some rest, _ =>
      let (second, rest) ← term? rest
      return (some ⟨first, second⟩, rest)
    | none, some rest =>
      let (second, rest) ← term? rest
      return (some ⟨second, first⟩, rest)
    | none, none => return (some ⟨.constant (integerValue 0), first⟩, rest)

/-- A command that selects rows or evaluates terms, after its first keyword. -/
def select? (tokens : List Token) : Option Command := do
  let fuel := tokens.length
  match separated? item? fuel tokens with
  | some (items, []) => return .evaluate items
  | _ =>
    let (columns, rest) ← separated? columns? fuel tokens
    let rest ← named? "t" (← keywords? ["FROM"] rest)
    let (selection, rest) ← selection? rest
    let (limit, rest) ← limit? rest
    if rest.isEmpty then some (.select columns.flatten selection limit) else none

/-- A command that inserts a row, after its first keyword. -/
def insert? (tokens : List Token) : Option Command := do
  let rest ← symbol? '(' (← named? "t" (← keywords? ["INTO"] tokens))
  let rest ← symbol? ')' (← named? "name" rest)
  let (name, rest) ← term? (← symbol? '(' (← keywords? ["VALUES"] rest))
  let rest ← symbol? ')' rest
  if rest.isEmpty then some (.insert name false)
  else if (← named? "id" (← keywords? ["RETURNING"] rest)).isEmpty then some (.insert name true)
  else none

/-- A command that changes rows, after its first keyword. -/
def update? (tokens : List Token) : Option Command := do
  let rest ← keywords? ["SET"] (← named? "t" tokens)
  let (name, rest) ← term? (← symbol? '=' (← named? "name" rest))
  let (selection, rest) ← selection? rest
  if rest.isEmpty then some (.update name selection) else none

/-- A command that deletes rows, after its first keyword. -/
def delete? (tokens : List Token) : Option Command := do
  let (selection, rest) ← selection? (← named? "t" (← keywords? ["FROM"] tokens))
  if rest.isEmpty then some (.delete selection) else none

/-- The command that creates the table, after its first keyword. -/
def create? (tokens : List Token) : Option Command := do
  let rest ← symbol? '(' (← named? "t" (← keywords? ["TABLE"] tokens))
  let rest ← keywords? ["INTEGER", "PRIMARY", "KEY"] (← named? "id" rest)
  let rest ← keywords? ["TEXT"] (← named? "name" (← symbol? ',' rest))
  if (← symbol? ')' rest).isEmpty then some .createTable else none

/-- The command that SQL with `?` for parameters writes. Blanks around it and semicolons after it
count for nothing. -/
def Command.read? (sql : String) : Option Command := do
  let s := Text.trim sql.toList
  let tokens ← tokens? s.length 0 s
  match (tokens.reverse.dropWhile (· == .symbol ';')).reverse with
  | .word first :: rest =>
    match String.ofList (Text.upperCase first.toList) with
    | "SELECT" => select? rest
    | "INSERT" => insert? rest
    | "UPDATE" => update? rest
    | "DELETE" => delete? rest
    | "CREATE" => create? rest
    | _ => none
  | _ => none

end BoundSql.Embedded
