import FaultInjection.Number.Binary64
import FaultInjection.Number.Decimal

/-!
# Floating-point literals

The literals are decimals with an optional sign, an optional fraction and an optional exponent,
where at least one digit stands in front of the exponent, and the words for infinity and the
non-number in either case.
-/

namespace FaultInjection.Number

/-- A sign and the text after it. -/
def splitSign : List Char → Bool × List Char
  | '-' :: r => (true, r)
  | '+' :: r => (false, r)
  | s => (false, s)

/-- The digits at the start of a text and the text after them. -/
def splitDigits (s : List Char) : List Char × List Char :=
  (s.takeWhile isDigit, s.dropWhile isDigit)

/-- The power of ten that ends a literal: nothing, or a marker with a whole number. -/
def readExponent : List Char → Option Int
  | [] => some 0
  | c :: r =>
    if c = 'e' ∨ c = 'E' then
      let (negative, r) := splitSign r
      let (digits, rest) := splitDigits r
      if digits = [] ∨ rest ≠ [] then none
      else
        let n : Int := digitsValue 0 digits
        some (if negative then -n else n)
    else none

/-- The number of an unsigned decimal literal. -/
def readDecimal (negative : Bool) (s : List Char) : Option Binary64 :=
  let (whole, rest) := splitDigits s
  let (fraction, rest) := match rest with
    | '.' :: r => splitDigits r
    | r => ([], r)
  if whole = [] ∧ fraction = [] then none
  else (readExponent rest).map fun e =>
    Binary64.ofDecimal negative (digitsValue 0 (whole ++ fraction)) (e - fraction.length)

/-- The number that a literal stands for. -/
def readBinary64 (s : List Char) : Option Binary64 :=
  let (negative, r) := splitSign s
  match String.ofList (r.map Char.toLower) with
  | "inf" | "infinity" => some (.infinite negative)
  | "nan" => some .nan
  | _ => readDecimal negative r

end FaultInjection.Number
