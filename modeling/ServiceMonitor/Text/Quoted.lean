import ServiceMonitor.Text.Unprintable

/-!
Quoted texts, as they stand in descriptions of values.

A text is put between double quotes; the quote, the backslash and the common control characters are written with a
backslash, and every other unprintable character by its code point, so U+200B becomes a backslash, `u` and `200b` in braces.
-/

namespace ServiceMonitor.Text

/-- a number in lower-case hexadecimal, without leading zeros -/
def hex (n : Nat) : List Char := Nat.toDigits 16 n

def quoteChar (c : Char) : List Char :=
  if c = '\x00' then ['\\', '0']
  else if c = '\t' then ['\\', 't']
  else if c = '\r' then ['\\', 'r']
  else if c = '\n' then ['\\', 'n']
  else if c = '\\' then ['\\', '\\']
  else if c = '"' then ['\\', '"']
  else if isUnprintable c then ['\\', 'u', '\x7b'] ++ hex c.toNat ++ ['\x7d']
  else [c]

def quoted (s : String) : String := String.ofList ('"' :: s.toList.flatMap quoteChar ++ ['"'])

end ServiceMonitor.Text
