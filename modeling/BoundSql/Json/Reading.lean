import BoundSql.Json
import BoundSql.Text.Numeral

/-!
# Reading JSON

`Json.read?` reads one JSON value from a text, blanks around it allowed. Integers between `-2 ^ 63`
and `2 ^ 64` are integers; every other number is a double: its first digits as a 64-bit integer,
rounded, and then multiplied or divided once by a power of ten (`scaleByTen`). Each reader returns
what it read and the rest of the text. The recursion is bounded by the length of the text.
-/

namespace BoundSql.Json

open BoundSql.Number BoundSql.Text

/-- A text without its leading JSON blanks. -/
def skipBlanks (s : List Char) : List Char :=
  s.dropWhile fun c => c == ' ' || c == '\n' || c == '\t' || c == '\r'

/-- The rest of a text after a word. -/
def expect? (word : List Char) (s : List Char) : Option (List Char) :=
  if word.isPrefixOf s then some (s.drop word.length) else none

/-- Four hexadecimal digits. -/
def readUnit? (s : List Char) : Option (Nat × List Char) :=
  let digits := s.take 4
  if digits.length = 4 then (readHexNat? digits).map fun n => (n, s.drop 4) else none

/-- The character of a `\u` escape, which may take two of them. -/
def readEscapedUnit? (s : List Char) : Option (Char × List Char) := do
  let (n, rest) ← readUnit? s
  if 0xD800 ≤ n && n < 0xDC00 then
    match rest with
    | '\\' :: 'u' :: rest =>
      let (m, rest) ← readUnit? rest
      if 0xDC00 ≤ m && m < 0xE000 then
        return (Char.ofNat (0x10000 + (n - 0xD800) * 0x400 + (m - 0xDC00)), rest)
      else none
    | _ => none
  else if 0xDC00 ≤ n && n < 0xE000 then none
  else return (Char.ofNat n, rest)

/-- The character of an escape, after its backslash. -/
def readEscape? : List Char → Option (Char × List Char)
  | '"' :: rest => some ('"', rest)
  | '\\' :: rest => some ('\\', rest)
  | '/' :: rest => some ('/', rest)
  | 'b' :: rest => some ('\x08', rest)
  | 'f' :: rest => some ('\x0c', rest)
  | 'n' :: rest => some ('\n', rest)
  | 'r' :: rest => some ('\r', rest)
  | 't' :: rest => some ('\t', rest)
  | 'u' :: rest => readEscapedUnit? rest
  | _ => none

/-- The characters up to the closing quote. -/
def readQuoted? : Nat → List Char → Option (List Char × List Char)
  | 0, _ => none
  | _ + 1, [] => none
  | _ + 1, '"' :: rest => some ([], rest)
  | fuel + 1, '\\' :: rest => do
    let (c, rest) ← readEscape? rest
    let (s, rest) ← readQuoted? fuel rest
    return (c :: s, rest)
  | fuel + 1, c :: rest =>
    if c.toNat < 0x20 then none
    else do
      let (s, rest) ← readQuoted? fuel rest
      return (c :: s, rest)

/-- The product or quotient of two doubles above zero, to the nearest double. -/
def scaleByTen (x : Double) (exponent : Int) : Double :=
  let (m, q) := x.magnitude
  let (t, u) := (Double.ofDecimal false 1 exponent.natAbs).magnitude
  let power (e : Int) : Nat := 2 ^ e.toNat
  if 0 ≤ exponent then .ofQuotient false (m * t * power (q + u)) (power (-(q + u)))
  else .ofQuotient false (m * power (q - u)) (t * power (u - q))

/-- A significand times a power of ten: one step for powers up to `10 ^ 308`, and smaller ones in
steps of that size. -/
def scaleSignificand : Nat → Double → Int → Double
  | 0, x, _ => x
  | steps + 1, x, exponent =>
    if x.code = 0 then x
    else if -308 ≤ exponent then
      if 308 < exponent then .infinity false else scaleByTen x exponent
    else scaleSignificand steps (scaleByTen x (-308)) (exponent + 308)

/-- The digits of a significand that fit in 64 bits, and how many were left out. -/
def takeSignificand : Nat → List Char → Nat × Nat
  | n, [] => (n, 0)
  | n, c :: rest =>
    let next := 10 * n + digitValue c
    if next < 2 ^ 64 then takeSignificand next rest else (n, rest.length + 1)

/-- The double of a number with a fraction or an exponent, or of an integer beyond the others. -/
def floatOf (negative : Bool) (whole fraction : List Char) (exponent : Int) : Double :=
  let (n, left) := takeSignificand 0 whole
  let (n, dropped) := takeSignificand n fraction
  let x := scaleSignificand 8 (.ofInt n) (exponent + left - (fraction.length - dropped : Nat))
  if negative then ⟨x.bits + 0x8000000000000000⟩ else x

/-- A number. -/
def readNumber? (s : List Char) : Option (Json × List Char) := do
  let (negative, s) :=
    match s with
    | '-' :: rest => (true, rest)
    | s => (false, s)
  let (whole, rest) := s.span Char.isDigit
  if whole.isEmpty then none
  let (fraction, rest) :=
    match rest with
    | '.' :: rest => let (digits, rest) := rest.span Char.isDigit; (some digits, rest)
    | rest => (none, rest)
  if fraction = some [] then none
  let (exponent, rest) ←
    match rest with
    | c :: rest =>
      if c.toLower = 'e' then
        let (sign, rest) :=
          match rest with
          | '-' :: rest => (['-'], rest)
          | '+' :: rest => ([], rest)
          | rest => ([], rest)
        let (digits, rest) := rest.span Char.isDigit
        (readInt? (sign ++ digits)).map fun e => (some e, rest)
      else some (none, c :: rest)
    | [] => some (none, [])
  let n : Int := numeralValue whole
  let i := if negative then -n else n
  let isInteger := fraction.isNone && exponent.isNone
  if isInteger && !(negative && n = 0) && -(2 ^ 63 : Int) ≤ i && i < (2 ^ 64 : Int) then
    return (.int i, rest)
  return (.float (floatOf negative whole (fraction.getD []) (exponent.getD 0)), rest)

mutual

/-- A value, with what follows it. -/
def readValue? : Nat → List Char → Option (Json × List Char)
  | 0, _ => none
  | fuel + 1, s =>
    match skipBlanks s with
    | '"' :: rest => do
      let (s, rest) ← readQuoted? (rest.length + 1) rest
      return (.string (String.ofList s), rest)
    | '[' :: rest =>
      match skipBlanks rest with
      | ']' :: rest => some (.array [], rest)
      | rest => do
        let (items, rest) ← readItems? fuel rest
        return (.array items, rest)
    | '\x7b' :: rest =>
      match skipBlanks rest with
      | '\x7d' :: rest => some (.object [], rest)
      | rest => do
        let (members, rest) ← readMembers? fuel rest
        return (.object members, rest)
    | 'n' :: rest => (expect? "ull".toList rest).map fun rest => (.null, rest)
    | 't' :: rest => (expect? "rue".toList rest).map fun rest => (.bool true, rest)
    | 'f' :: rest => (expect? "alse".toList rest).map fun rest => (.bool false, rest)
    | s => readNumber? s

/-- Items up to the closing bracket. -/
def readItems? : Nat → List Char → Option (List Json × List Char)
  | 0, _ => none
  | fuel + 1, s => do
    let (item, rest) ← readValue? fuel s
    match skipBlanks rest with
    | ',' :: rest =>
      let (items, rest) ← readItems? fuel rest
      return (item :: items, rest)
    | ']' :: rest => return ([item], rest)
    | _ => none

/-- Members up to the closing brace. -/
def readMembers? : Nat → List Char → Option (List (String × Json) × List Char)
  | 0, _ => none
  | fuel + 1, s => do
    let rest ← expect? ['"'] (skipBlanks s)
    let (name, rest) ← readQuoted? (rest.length + 1) rest
    let rest ← expect? [':'] (skipBlanks rest)
    let (value, rest) ← readValue? fuel rest
    let member := (String.ofList name, value)
    match skipBlanks rest with
    | ',' :: rest =>
      let (members, rest) ← readMembers? fuel rest
      return (member :: members, rest)
    | '\x7d' :: rest => return ([member], rest)
    | _ => none

end

/-- The JSON value that a text writes, if it writes one and nothing else. -/
def read? (text : String) : Option Json := do
  let s := text.toList
  let (value, rest) ← readValue? (s.length + 1) s
  if (skipBlanks rest).isEmpty then some value else none

end BoundSql.Json
