import FaultInjection.Number.Decimal
import FaultInjection.Text.Blank

/-!
# Timestamps

A timestamp is a date, a time of day and a distance from the common time. Blanks may stand between
its numbers and their separators, a fraction of a second may have any number of digits, and a second
may be a leap second.
-/

namespace FaultInjection.Text

open Number

/-! ## Parts -/

/-- A moment as it is written. -/
structure Timestamp where
  year : Int
  month : Nat
  day : Nat
  hour : Nat
  minute : Nat
  second : Nat
  /-- The hours by which the time of day differs from the common one, whatever the direction. -/
  offsetHours : Nat
deriving DecidableEq, Repr

namespace Timestamp

/-- A year with a day more than others. -/
def isLeapYear (year : Int) : Bool := year % 4 = 0 && (year % 100 ≠ 0 || year % 400 = 0)

/-- How many days a month has. -/
def daysIn (year : Int) (month : Nat) : Nat :=
  if month = 2 then (if isLeapYear year then 29 else 28)
  else if month = 4 ∨ month = 6 ∨ month = 9 ∨ month = 11 then 30
  else 31

/-- The parts name a moment. -/
def isValid (t : Timestamp) : Bool :=
  -262143 ≤ t.year && t.year ≤ 262142 && 1 ≤ t.month && t.month ≤ 12
    && 1 ≤ t.day && t.day ≤ daysIn t.year t.month
    && t.hour ≤ 23 && t.minute ≤ 59 && t.second ≤ 60 && t.offsetHours ≤ 23

/-! ## Reading -/

/-- A number of at least one digit and at most so many, after blanks, and the text after it. -/
def readNumber (width : Nat) (s : List Char) : Option (Nat × List Char) :=
  let s := trimStart s
  let digits := (s.take width).takeWhile isDigit
  if digits = [] then none else some (digitsValue 0 digits, s.drop digits.length)

/-- A year, after blanks. With a sign it may have any number of digits. -/
def readYear (s : List Char) : Option (Int × List Char) :=
  let signed (negate : Bool) (r : List Char) : Option (Int × List Char) :=
    if (r.head?.map isDigit).getD false then
      (readNumber r.length r).map fun p => ((if negate then -(p.1 : Int) else p.1), p.2)
    else none
  match trimStart s with
  | '-' :: r => signed true r
  | '+' :: r => signed false r
  | s => (readNumber 4 s).map fun p => ((p.1 : Int), p.2)

/-- The text after a separator, with blanks in front of it. -/
def skipSeparator (c : Char) (s : List Char) : Option (List Char) :=
  match trimStart s with
  | x :: r => if x = c then some r else none
  | [] => none

/-- The text after the mark between a date and a time of day. -/
def skipMark : List Char → Option (List Char)
  | 'T' :: r | 't' :: r | ' ' :: r => some r
  | _ => none

/-- The text after a fraction of a second, if there is one. -/
def skipFraction : List Char → Option (List Char)
  | '.' :: r => if (r.head?.map isDigit).getD false then some (r.dropWhile isDigit) else none
  | s => some s

/-- The text after two digits, and their value. -/
def readPair : List Char → Option (Nat × List Char)
  | a :: b :: r => if isDigit a ∧ isDigit b then some (digitsValue 0 [a, b], r) else none
  | _ => none

/-- The hours of a distance, and the text after it. Its minutes are two digits. -/
def readDistance (s : List Char) : Option (Nat × List Char) := do
  let (hours, s) ← readPair s
  let (minutes, s) ← readPair (s.dropWhile fun c => c = ':' ∨ isBlank c)
  if minutes ≤ 59 then some (hours, s) else none

/-- The hours of the distance from the common time, and the text after it. -/
def readOffset (s : List Char) : Option (Nat × List Char) :=
  if (s.take 3).map Char.toUpper = ['U', 'T', 'C'] then some (0, s.drop 3)
  else match s with
    | 'Z' :: r | 'z' :: r => some (0, r)
    | '+' :: r | '-' :: r | '\u2212' :: r => readDistance r
    | _ => none

/-- The parts of a text. -/
def read? (s : List Char) : Option Timestamp := do
  let (year, s) ← readYear s
  let (month, s) ← readNumber 2 (← skipSeparator '-' s)
  let (day, s) ← readNumber 2 (← skipSeparator '-' s)
  let (hour, s) ← readNumber 2 (← skipMark s)
  let (minute, s) ← readNumber 2 (← skipSeparator ':' s)
  let (second, s) ← readNumber 2 (← skipSeparator ':' s)
  let (offsetHours, s) ← readOffset (trimStart (← skipFraction s))
  if trimStart s = [] then some { year, month, day, hour, minute, second, offsetHours } else none

end Timestamp

/-- A text that names a moment. -/
def isTimestamp (s : String) : Bool :=
  ((Timestamp.read? s.toList).map Timestamp.isValid).getD false

end FaultInjection.Text
