import BoundSql.Text.Visible

/-!
# Quoted texts

A text in quotes for reading: quotes, backslashes, tabs and line ends are escaped, and so is every
other character that does not show, by its code point in hexadecimal digits.
-/

namespace BoundSql.Text

/-- A character inside quotes. -/
def quoteChar (c : Char) : List Char :=
  if c = '"' then ['\\', '"']
  else if c = '\\' then ['\\', '\\']
  else if c = '\t' then ['\\', 't']
  else if c = '\r' then ['\\', 'r']
  else if c = '\n' then ['\\', 'n']
  else if c = '\x00' then ['\\', '0']
  else if isVisible c then [c]
  else '\\' :: 'u' :: '\x7b' :: Nat.toDigits 16 c.toNat ++ ['\x7d']

/-- A text in quotes. -/
def quoteDebug (s : List Char) : List Char :=
  '"' :: s.flatMap quoteChar ++ ['"']

end BoundSql.Text
