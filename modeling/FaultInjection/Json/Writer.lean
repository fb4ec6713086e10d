import FaultInjection.Json.Value
import FaultInjection.Number.Shortest
import FaultInjection.Text.Pieces

/-!
# Compact JSON text

A value is written without spaces, and the members of an object in ascending order of their names,
each name once. What stands for nothing is written as null.
-/

namespace FaultInjection.Json

open Number Text

/-! ## Strings -/

/-- A character inside a string: quotes, backslashes and control characters are escaped. -/
def escapeChar (c : Char) : List Char :=
  if c = '"' then ['\\', '"']
  else if c = '\\' then ['\\', '\\']
  else if c = '\n' then ['\\', 'n']
  else if c = '\r' then ['\\', 'r']
  else if c = '\t' then ['\\', 't']
  else if c.toNat = 8 then ['\\', 'b']
  else if c.toNat = 12 then ['\\', 'f']
  else if c.toNat < 0x20 then
    ['\\', 'u', '0', '0', Nat.digitChar (c.toNat / 16), Nat.digitChar (c.toNat % 16)]
  else [c]

/-- A string between double quotes. -/
def writeString (s : String) : List Char := '"' :: s.toList.flatMap escapeChar ++ ['"']

/-! ## Values -/

mutual

/-- The text of a value. -/
def writeValue : Json → List Char
  | null | garbled => "null".toList
  | bool b => (if b then "true" else "false").toList
  | int n => signedDecimal n
  | float x => if x.isFinite then (Layout.scientific.text x).toList else "null".toList
  | str s => writeString s
  | arr items => '[' :: joinWith ',' (writeItems items) ++ [']']
  | obj members =>
    '\x7b' :: joinWith ',' ((Keyed.ofList (writeMembers members)).map fun m =>
      writeString m.1 ++ ':' :: m.2) ++ ['\x7d']

/-- The texts of the items of an array. -/
def writeItems : List Json → List (List Char)
  | [] => []
  | v :: r => writeValue v :: writeItems r

/-- The names of members with the texts of their values. -/
def writeMembers : List (String × Json) → List (String × List Char)
  | [] => []
  | (name, v) :: r => (name, writeValue v) :: writeMembers r

end

/-- The compact text of a value. -/
def text (value : Json) : String := String.ofList (writeValue value)

end FaultInjection.Json
