import FaultInjection.Text.Utf8

/-!
# Text from units of sixteen bits

Two octets make a unit, and a character past the first plane takes two units: the first half of a
pair and the second one. A byte order mark in front of a text tells which octet of a unit comes
first; without one the text is UTF-8.
-/

namespace FaultInjection.Text

/-! ## Units -/

/-- The units of some octets, of which the first one of each unit counts less. -/
def unitsLittle? : List UInt8 → Option (List Nat)
  | [] => some []
  | low :: high :: r => (unitsLittle? r).map ((high.toNat * 256 + low.toNat) :: ·)
  | _ => none

/-- The units of some octets, of which the first one of each unit counts more. -/
def unitsBig? : List UInt8 → Option (List Nat)
  | [] => some []
  | high :: low :: r => (unitsBig? r).map ((high.toNat * 256 + low.toNat) :: ·)
  | _ => none

/-- The first half of a pair. -/
def isFirstHalf (n : Nat) : Bool := 0xD800 ≤ n && n ≤ 0xDBFF

/-- The second half of a pair. -/
def isSecondHalf (n : Nat) : Bool := 0xDC00 ≤ n && n ≤ 0xDFFF

/-- The character of the two halves of a pair. -/
def pairedChar (first second : Nat) : Char :=
  Char.ofNat (0x10000 + (first - 0xD800) * 0x400 + (second - 0xDC00))

/-- The characters of some units, in which no half may stand alone. -/
def charsOfUnits? : List Nat → Option (List Char)
  | [] => some []
  | n :: r =>
    if isFirstHalf n then
      match r with
      | m :: r => if isSecondHalf m then (charsOfUnits? r).map (pairedChar n m :: ·) else none
      | [] => none
    else if isSecondHalf n then none
    else (charsOfUnits? r).map (Char.ofNat n :: ·)

/-! ## Marked texts -/

/-- The text of some octets, by the byte order mark in front of it. The mark is no part of it. -/
def decodeMarked? : List UInt8 → Option String
  | 0xFF :: 0xFE :: r => ((unitsLittle? r).bind charsOfUnits?).map String.ofList
  | 0xFE :: 0xFF :: r => ((unitsBig? r).bind charsOfUnits?).map String.ofList
  | 0xEF :: 0xBB :: 0xBF :: r => decode? r
  | octets => decode? octets

end FaultInjection.Text
