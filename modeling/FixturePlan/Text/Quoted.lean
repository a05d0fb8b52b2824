import FixturePlan.Text.Printable

/-!
# Quoted text

A text as a literal between double quotes. The quote and the backslash are escaped by a backslash,
four control characters have an escape letter, and every other character that would not show by
itself is written by its code point.
-/

namespace FixturePlan.Text

/-- A character by its code point: `\u`, then the lower-case hexadecimal digits in braces. -/
def codePointEscape (c : Char) : List Char :=
  ['\\', 'u', '\x7b'] ++ Nat.toDigits 16 c.toNat ++ ['\x7d']

def quoteChar (c : Char) : List Char :=
  if c == '\x00' then ['\\', '0']
  else if c == '\t' then ['\\', 't']
  else if c == '\r' then ['\\', 'r']
  else if c == '\n' then ['\\', 'n']
  else if c == '\\' then ['\\', '\\']
  else if c == '"' then ['\\', '"']
  else if isExtender c then codePointEscape c
  else if isPrintable c then [c]
  else codePointEscape c

def quoteChars (cs : List Char) : List Char := '"' :: cs.flatMap quoteChar ++ ['"']

/-- A text between double quotes. -/
def quoted (s : String) : String := String.ofList (quoteChars s.toList)

end FixturePlan.Text
