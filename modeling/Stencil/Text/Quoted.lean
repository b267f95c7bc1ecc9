import Stencil.Text.QuoteTable

/-!
# Texts in quotes

A text that is shown to a developer stands in double quotes. Quotes, backslashes, tabs and line
ends are escaped by a letter; whatever is not printable, or would attach to the quote in front of
it, is written as its code point in hexadecimal.
-/

namespace Stencil.Text

/-- The character can be shown as it is. -/
def isPrintable (c : Char) : Bool :=
  !(unprintableRanges.contains c) && !(graphemeExtendRanges.contains c)

/-- The escape of a code point. -/
def escapeCodePoint (c : Char) : List Char :=
  '\\' :: 'u' :: '\x7b' :: Nat.toDigits 16 c.toNat ++ ['\x7d']

/-- One character inside quotes. -/
def quoteChar (c : Char) : List Char :=
  if c.toNat = 0 then ['\\', '0']
  else if c = '\t' then ['\\', 't']
  else if c = '\r' then ['\\', 'r']
  else if c = '\n' then ['\\', 'n']
  else if c = '\\' then ['\\', '\\']
  else if c = '"' then ['\\', '"']
  else if 0x20 ≤ c.toNat && c.toNat < 0x7F then [c]
  else if isPrintable c then [c]
  else escapeCodePoint c

/-- A text in quotes. -/
def quoted (s : String) : String := String.ofList ('"' :: s.toList.flatMap quoteChar ++ ['"'])

end Stencil.Text
