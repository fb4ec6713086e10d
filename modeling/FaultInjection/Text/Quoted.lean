import FaultInjection.Text.Unprintable

/-!
# Quoted text

A text between double quotes, as it is shown inside an error message: quotes and backslashes are
escaped, tabs, line ends and the null character have short escapes, and a character that cannot be
shown as itself is given by its number.
-/

namespace FaultInjection.Text

/-- The hexadecimal digits of a number, without leading zeros. -/
def hexDigits (n : Nat) : List Char := Nat.toDigits 16 n

/-- A character given by its number. -/
def numberEscape (c : Char) : List Char :=
  '\\' :: 'u' :: '\x7b' :: hexDigits c.toNat ++ ['\x7d']

/-- How one character is shown between double quotes. -/
def quoteChar (c : Char) : List Char :=
  if c = '\x00' then ['\\', '0']
  else if c = '\t' then ['\\', 't']
  else if c = '\r' then ['\\', 'r']
  else if c = '\n' then ['\\', 'n']
  else if c = '\\' then ['\\', '\\']
  else if c = '"' then ['\\', '"']
  else if c.toNat < 0x20 then numberEscape c
  else if c.toNat < 0x7F then [c]
  else if isUnprintable c then numberEscape c
  else [c]

/-- The text between double quotes. -/
def quoted (s : String) : String :=
  String.ofList ('"' :: s.toList.flatMap quoteChar ++ ['"'])

end FaultInjection.Text
