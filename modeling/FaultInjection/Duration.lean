import FaultInjection.Number.Decimal

/-!
# Durations

A duration is a whole number of nanoseconds. It has two texts: the exact one of a command line, a
whole number of the largest unit that divides it, and the one of a message, a decimal in the largest
unit that it reaches.
-/

namespace FaultInjection

open Number

/-- A length of time. -/
structure Duration where
  /-- The nanoseconds in it. -/
  nanos : Nat
deriving DecidableEq, Repr

namespace Duration

/-- No time at all. -/
def zero : Duration := ⟨0⟩

instance : Inhabited Duration := ⟨zero⟩

instance : LE Duration := ⟨fun a b => a.nanos ≤ b.nanos⟩

instance : LT Duration := ⟨fun a b => a.nanos < b.nanos⟩

instance (a b : Duration) : Decidable (a ≤ b) := inferInstanceAs (Decidable (a.nanos ≤ b.nanos))

instance (a b : Duration) : Decidable (a < b) := inferInstanceAs (Decidable (a.nanos < b.nanos))

/-- The duration of whole seconds. -/
def ofSecs (n : Nat) : Duration := ⟨n * 1000000000⟩

/-- The duration of whole milliseconds. -/
def ofMillis (n : Nat) : Duration := ⟨n * 1000000⟩

/-! ## Units -/

/-- The units that durations are written in. -/
inductive Measure where
  | seconds
  | milliseconds
  | microseconds
  | nanoseconds
deriving DecidableEq, Repr

/-- The nanoseconds in a unit. -/
def Measure.size : Measure → Nat
  | .seconds => 1000000000
  | .milliseconds => 1000000
  | .microseconds => 1000
  | .nanoseconds => 1

/-- The sign of a unit in a command line. -/
def Measure.symbol : Measure → String
  | .seconds => "s"
  | .milliseconds => "ms"
  | .microseconds => "us"
  | .nanoseconds => "ns"

/-! ## The exact text -/

/-- The largest unit that divides a duration evenly. -/
def unit (d : Duration) : Measure :=
  if d.nanos % 1000000000 = 0 then .seconds
  else if d.nanos % 1000000 = 0 then .milliseconds
  else if d.nanos % 1000 = 0 then .microseconds
  else .nanoseconds

/-- How many of its unit a duration has. -/
def count (d : Duration) : Nat := d.nanos / d.unit.size

/-- A duration as a whole number with its unit. -/
def text (d : Duration) : String := decimalText d.count ++ d.unit.symbol

/-- The number and the unit give the duration back. -/
theorem count_mul_size (d : Duration) : d.count * d.unit.size = d.nanos := by
  unfold count unit
  split
  · next h => simpa [Measure.size] using Nat.div_mul_cancel (Nat.dvd_of_mod_eq_zero h)
  · split
    · next h => simpa [Measure.size] using Nat.div_mul_cancel (Nat.dvd_of_mod_eq_zero h)
    · split
      · next h => simpa [Measure.size] using Nat.div_mul_cancel (Nat.dvd_of_mod_eq_zero h)
      · simp [Measure.size]

/-! ## The text of messages -/

/-- The largest unit that a duration reaches. -/
def scaleUnit (d : Duration) : Measure :=
  if 1000000000 ≤ d.nanos then .seconds
  else if 1000000 ≤ d.nanos then .milliseconds
  else if 1000 ≤ d.nanos then .microseconds
  else .nanoseconds

/-- The sign of a unit in a message. -/
def Measure.sign : Measure → String
  | .microseconds => "µs"
  | u => u.symbol

/-- The digits after the point of `part / size`, where `size` is the power of ten with `places`
zeros, without trailing zeros. -/
def fractionDigits (places part : Nat) : List Char :=
  let digits := decimal part
  let padded := List.replicate (places - digits.length) '0' ++ digits
  (padded.reverse.dropWhile (· = '0')).reverse

/-- The decimal places of a unit. -/
def Measure.places : Measure → Nat
  | .seconds => 9
  | .milliseconds => 6
  | .microseconds => 3
  | .nanoseconds => 0

/-- A duration as a decimal in the largest unit that it reaches. -/
def scaledText (d : Duration) : String :=
  let u := d.scaleUnit
  let part := d.nanos % u.size
  let fraction := if part = 0 then [] else '.' :: fractionDigits u.places part
  decimalText (d.nanos / u.size) ++ String.ofList fraction ++ u.sign

end Duration

end FaultInjection
