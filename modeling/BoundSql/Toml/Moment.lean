import BoundSql.Text.Numeral

/-!
# Dates and times

A moment is a date, a time of day, or both, and only with both it may have an offset from universal
time. It is read in several spellings (`Moment.read?`) and written in one (`Moment.text`): a `T`
between date and time, seconds always, a fraction of them only when it is not zero.
-/

namespace BoundSql.Toml

open BoundSql.Text

/-- A day of a calendar year. -/
structure Date where
  year : Nat
  month : Nat
  day : Nat
  deriving DecidableEq, Repr

/-- A time of day. -/
structure Time where
  hour : Nat
  minute : Nat
  second : Nat := 0
  /-- Billionths of a second. -/
  nanosecond : Nat := 0
  deriving DecidableEq, Repr

/-- The difference of a time from universal time. -/
inductive Offset where
  /-- None, written as a letter. -/
  | universal
  /-- A number of minutes, to the east if it is positive. -/
  | minutes (m : Int)
  deriving DecidableEq, Repr

/-- A date, a time of day, or both. -/
inductive Moment where
  | date (day : Date)
  | time (clock : Time)
  | dateTime (day : Date) (clock : Time) (offset : Option Offset)
  deriving DecidableEq, Repr

/-- The digits of a number, with zeros before them up to a width. -/
def padded (width n : Nat) : List Char :=
  (digitsOf n).leftpad width '0'

/-- A date: the year has four digits. -/
def Date.text (date : Date) : List Char :=
  padded 4 date.year ++ '-' :: padded 2 date.month ++ '-' :: padded 2 date.day

/-- A fraction of a second, without zeros at its end; nothing for none. -/
def fractionText (nanosecond : Nat) : List Char :=
  if nanosecond = 0 then []
  else '.' :: ((padded 9 nanosecond).reverse.dropWhile (· == '0')).reverse

/-- A time of day. -/
def Time.text (time : Time) : List Char :=
  padded 2 time.hour ++ ':' :: padded 2 time.minute ++ ':' :: padded 2 time.second ++
    fractionText time.nanosecond

/-- An offset: a sign, hours and minutes. -/
def Offset.text : Offset → List Char
  | .universal => ['Z']
  | .minutes m =>
    (if m < 0 then '-' else '+') :: padded 2 (m.natAbs / 60) ++ ':' :: padded 2 (m.natAbs % 60)

/-- A moment in its standard writing. -/
def Moment.text : Moment → String
  | .date day => String.ofList day.text
  | .time clock => String.ofList clock.text
  | .dateTime day clock offset =>
    String.ofList (day.text ++ 'T' :: clock.text ++ (offset.map Offset.text).getD [])

/-- The number that exactly `width` digits at the start of a text write, and the rest. -/
def fixedNumber? (width : Nat) (s : List Char) : Option (Nat × List Char) :=
  let digits := s.take width
  if digits.length = width then (readNat? digits).map fun n => (n, s.drop width) else none

/-- The number of days of a month. -/
def daysIn (year month : Nat) : Nat :=
  if month = 2 then
    if year % 4 = 0 && (year % 100 != 0 || year % 400 = 0) then 29 else 28
  else if month = 4 || month = 6 || month = 9 || month = 11 then 30
  else 31

/-- What follows one character at the start of a text. -/
def afterMark? (mark : Char) : List Char → Option (List Char)
  | [] => none
  | c :: rest => if c = mark then some rest else none

/-- A date at the start of a text, and the rest. -/
def takeDate? (s : List Char) : Option (Date × List Char) := do
  let (year, rest) ← fixedNumber? 4 s
  let (month, rest) ← fixedNumber? 2 (← afterMark? '-' rest)
  let (day, rest) ← fixedNumber? 2 (← afterMark? '-' rest)
  let isValid := 1 ≤ month && month ≤ 12 && 1 ≤ day && day ≤ daysIn year month
  if isValid then some (⟨year, month, day⟩, rest) else none

/-- Hours and minutes with a colon between them at the start of a text, and the rest. -/
def takeClock? (s : List Char) : Option ((Nat × Nat) × List Char) := do
  let (hour, rest) ← fixedNumber? 2 s
  let (minute, rest) ← fixedNumber? 2 (← afterMark? ':' rest)
  if hour < 24 && minute < 60 then some ((hour, minute), rest) else none

/-- The billionths that the digits of a fraction write; digits after the ninth count for nothing. -/
def billionths (digits : List Char) : Nat :=
  numeralValue ((digits.take 9).rightpad 9 '0')

/-- A time of day at the start of a text, and the rest; seconds and their fraction are optional. A
second may be a leap second. -/
def takeTime? (s : List Char) : Option (Time × List Char) := do
  let ((hour, minute), rest) ← takeClock? s
  match rest with
  | ':' :: rest =>
    let (second, rest) ← fixedNumber? 2 rest
    if 60 < second then none
    else
      match rest with
      | '.' :: rest =>
        let digits := rest.takeWhile Char.isDigit
        if digits.isEmpty then none
        else some (⟨hour, minute, second, billionths digits⟩, rest.dropWhile Char.isDigit)
      | rest => some (⟨hour, minute, second, 0⟩, rest)
  | rest => some (⟨hour, minute, 0, 0⟩, rest)

/-- The offset that a text after a time writes; nothing is no offset. -/
def readOffset? (s : List Char) : Option (Option Offset) :=
  let minutes? (rest : List Char) : Option Int :=
    match takeClock? rest with
    | some ((hour, minute), []) => some (60 * hour + minute : Nat)
    | _ => none
  match s with
  | [] => some none
  | ['Z'] => some (some .universal)
  | ['z'] => some (some .universal)
  | '+' :: rest => (minutes? rest).map fun m => some (.minutes m)
  | '-' :: rest => (minutes? rest).map fun m => some (.minutes (-m))
  | _ => none

/-- The moment that a text writes. Between date and time stands a `T` in either case or a space. -/
def Moment.read? (s : List Char) : Option Moment :=
  match takeDate? s with
  | some (day, []) => some (.date day)
  | some (day, c :: rest) =>
    if c = 'T' || c = 't' || c = ' ' then do
      let (clock, rest) ← takeTime? rest
      return .dateTime day clock (← readOffset? rest)
    else none
  | none =>
    match takeTime? s with
    | some (clock, []) => some (.time clock)
    | _ => none

end BoundSql.Toml
