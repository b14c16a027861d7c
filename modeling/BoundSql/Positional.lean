import BoundSql.Backend

/-!
# Positional placeholders

Drivers that bind by position get the SQL with `:name` replaced by the placeholders of the backend,
and the names in the order in which to bind them. The text is first cut into lexemes: quoted
stretches, comments to the end of a line, `::`, placeholders, and other characters. Only
placeholders are replaced; a backend that can refer to an earlier position binds a name once.

* `text_lexemes`: the lexemes of a text, put together, are the text.
-/

namespace BoundSql

/-- A stretch of SQL that the search for placeholders treats as one. -/
inductive Lexeme where
  /-- A quoted stretch with its quotes. -/
  | quoted (text : List Char)
  /-- A comment, without the end of its line. -/
  | comment (text : List Char)
  /-- Two colons. -/
  | cast
  /-- A colon and a name. -/
  | placeholder (name : String)
  | other (c : Char)
  deriving DecidableEq, Repr

/-- The characters of a lexeme. -/
def Lexeme.text : Lexeme → List Char
  | quoted text => text
  | comment text => text
  | cast => [':', ':']
  | placeholder name => ':' :: name.toList
  | other c => [c]

/-- Whether a character opens a quoted stretch. -/
def isQuote (c : Char) : Bool :=
  c == '\'' || c == '"' || c == '\x60'

/-- What follows an opening quote, up to and with the closing one, and what is left. Two quotes in
a row do not close; without a closing quote the stretch reaches the end. -/
def takeQuoted (quote : Char) : List Char → List Char × List Char
  | [] => ([], [])
  | c :: rest =>
    if c = quote then
      match rest with
      | [] => ([c], [])
      | d :: others =>
        if d = quote then
          let (inside, after) := takeQuoted quote others
          (c :: d :: inside, after)
        else ([c], d :: others)
    else
      let (inside, after) := takeQuoted quote rest
      (c :: inside, after)

/-- The lexeme at the start of `c :: rest` and what is left. -/
def nextLexeme (c : Char) (rest : List Char) : Lexeme × List Char :=
  if isQuote c then
    let (inside, after) := takeQuoted c rest
    (.quoted (c :: inside), after)
  else
    match c, rest with
    | '-', '-' :: rest =>
      (.comment ('-' :: '-' :: rest.takeWhile (· != '\n')), rest.dropWhile (· != '\n'))
    | ':', ':' :: rest => (.cast, rest)
    | ':', d :: rest =>
      if Text.isNameStart d then
        (.placeholder (String.ofList ((d :: rest).takeWhile Text.isNameChar)),
          (d :: rest).dropWhile Text.isNameChar)
      else (.other ':', d :: rest)
    | c, rest => (.other c, rest)

theorem takeQuoted_append (quote : Char) (s : List Char) :
    (takeQuoted quote s).1 ++ (takeQuoted quote s).2 = s := by
  fun_induction takeQuoted quote s with
  | case1 => rfl
  | case2 => rfl
  | case3 others inside after heq ih => simpa [heq] using ih
  | case4 => rfl
  | case5 c rest hc inside after heq ih => simpa [heq] using ih

theorem text_nextLexeme (c : Char) (rest : List Char) :
    (nextLexeme c rest).1.text ++ (nextLexeme c rest).2 = c :: rest := by
  unfold nextLexeme
  split
  · simp [Lexeme.text, takeQuoted_append]
  · split
    · simp [Lexeme.text, List.takeWhile_append_dropWhile]
    · rfl
    · split
      · simp [Lexeme.text, List.takeWhile_append_dropWhile]
      · rfl
    · rfl

theorem text_ne_nil (c : Char) (rest : List Char) : (nextLexeme c rest).1.text ≠ [] := by
  unfold nextLexeme
  split
  · simp [Lexeme.text]
  · split
    · simp [Lexeme.text]
    · simp [Lexeme.text]
    · split <;> simp [Lexeme.text]
    · simp [Lexeme.text]

theorem length_nextLexeme (c : Char) (rest : List Char) :
    (nextLexeme c rest).2.length < (c :: rest).length := by
  have h := congrArg List.length (text_nextLexeme c rest)
  have hpos := List.length_pos_iff.2 (text_ne_nil c rest)
  rw [List.length_append] at h
  omega

/-- The lexemes of a text, in order. -/
def lexemes : List Char → List Lexeme
  | [] => []
  | c :: rest => (nextLexeme c rest).1 :: lexemes (nextLexeme c rest).2
termination_by s => s.length
decreasing_by exact length_nextLexeme c rest

theorem text_lexemes (s : List Char) : (lexemes s).flatMap Lexeme.text = s := by
  fun_induction lexemes s with
  | case1 => rfl
  | case2 c rest ih => rw [List.flatMap_cons, ih, text_nextLexeme]

/-- SQL for a driver that binds by position. -/
structure Positional where
  sql : String
  /-- The names to bind, in order. -/
  bindOrder : List String
  deriving DecidableEq, Repr

/-- The position of a name after those bound so far, and the names bound then. -/
def assignPosition (backend : Backend) (bound : List String) (name : String) :
    Nat × List String :=
  if backend.reusesPositions then
    match bound.idxOf? name with
    | some i => (i + 1, bound)
    | none => (bound.length + 1, bound ++ [name])
  else (bound.length + 1, bound ++ [name])

/-- The text of lexemes with placeholders in the backend's form, and the names bound after it. -/
def assignPositions (backend : Backend) : List String → List Lexeme → List Char × List String
  | bound, [] => ([], bound)
  | bound, .placeholder name :: rest =>
    let (position, bound) := assignPosition backend bound name
    let (text, bound) := assignPositions backend bound rest
    (backend.placeholder position ++ text, bound)
  | bound, lexeme :: rest =>
    let (text, bound) := assignPositions backend bound rest
    (lexeme.text ++ text, bound)

/-- SQL with named placeholders in positional form. -/
def toPositional (backend : Backend) (sql : String) : Positional :=
  let (text, bound) := assignPositions backend [] (lexemes sql.toList)
  ⟨String.ofList text, bound⟩

end BoundSql
