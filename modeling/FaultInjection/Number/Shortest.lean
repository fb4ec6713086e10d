import FaultInjection.Number.Binary64
import FaultInjection.Number.Decimal

/-!
# Shortest decimal text

The text of a floating-point number has the fewest digits that read back as that number; of several
such texts it is the one nearest to the number, and the greater of two that are equally near. What
differs from one output to another is only where the digits stand: see `Layout`.
-/

namespace FaultInjection.Number

/-! ## The fewest digits -/

/-- The greatest `k` such that `10 ^ k` is at most the positive number `m · 2 ^ q`. -/
def decimalMagnitude (m : Nat) (q : Int) : Int :=
  let (a, b) := Binary64.scale 2 m 1 (-q)
  if b ≤ a then (decimal (a / b)).length - 1
  else
    let k : Int := -(decimal (b / a)).length
    let (c, d) := Binary64.scale 10 a b (k + 1)
    if d ≤ c then k + 1 else k

/-- The decimal `d · 10 ^ e` without trailing zeros in a positive `d`. -/
def dropZeros (d : Nat) (e : Int) : Nat × Int :=
  if 0 < d ∧ d % 10 = 0 then dropZeros (d / 10) (e + 1) else (d, e)
termination_by d

/-- The decimal with `n` digits that reads back as `m · 2 ^ q`, if there is one: of the two
neighbours on the grid of `n` digits the nearer one. -/
def withDigits (m : Nat) (q : Int) (n : Nat) : Option (Nat × Int) :=
  let e := decimalMagnitude m q - n + 1
  let (a, b) := Binary64.scale 2 m 1 (-q)
  let (c, d) := Binary64.scale 10 a b e
  let low := c / d
  let reads := fun k => Binary64.ofDecimal false k e == Binary64.finite false m q
  let up := d ≤ 2 * (c % d)
  match reads low, reads (low + 1) with
  | true, true => some (if up then low + 1 else low, e)
  | true, false => some (low, e)
  | false, true => some (low + 1, e)
  | false, false => none

/-- Every digit of `m · 2 ^ q`. -/
def allDigits (m : Nat) (q : Int) : Nat × Int :=
  if 0 ≤ q then (m * Nat.pow 2 q.toNat, 0) else (m * Nat.pow 5 (-q).toNat, q)

/-- The decimal `d · 10 ^ e` with the fewest digits that reads back as the positive number
`m · 2 ^ q`. -/
def shortest (m : Nat) (q : Int) : Nat × Int :=
  let (d, e) := ((List.range' 1 17).findSome? (withDigits m q)).getD (allDigits m q)
  dropZeros d e

/-! ## Layouts -/

/-- Where the digits of a decimal stand in its text. -/
structure Layout where
  /-- A number without a fraction is written with `.0`. -/
  pointAlways : Bool
  /-- The digits before the point that are written without an exponent, as a least and a greatest
  count; a count that is not positive stands for zeros after the point. -/
  positional : Option (Int × Int)

/-- The digits in full, without an exponent. -/
def Layout.plain : Layout := ⟨false, none⟩

/-- The digits in full, and always with a point. -/
def Layout.pointed : Layout := ⟨true, none⟩

/-- The digits in full from `0.00001` up to sixteen digits before the point, otherwise with an
exponent. -/
def Layout.scientific : Layout := ⟨true, some (-4, 16)⟩

/-- The digits in full, where `before` of them stand before the point. -/
def positionalText (pointAlways : Bool) (digits : List Char) (before : Int) : List Char :=
  if before ≤ 0 then '0' :: '.' :: List.replicate (-before).toNat '0' ++ digits
  else if (digits.length : Int) ≤ before then
    digits ++ List.replicate (before.toNat - digits.length) '0'
      ++ (if pointAlways then ['.', '0'] else [])
  else digits.take before.toNat ++ '.' :: digits.drop before.toNat

/-- The digits with the point after the first one, and the power of ten. -/
def exponentText (digits : List Char) (before : Int) : List Char :=
  let mantissa := match digits with
    | c :: r@(_ :: _) => c :: '.' :: r
    | _ => digits
  mantissa ++ 'e' :: signedDecimal (before - 1)

/-- The text of a floating-point number in a layout. -/
def Layout.text (layout : Layout) : Binary64 → String
  | .nan => "NaN"
  | .infinite negative => if negative then "-inf" else "inf"
  | .finite negative m q =>
    let (d, e) := if m = 0 then (0, 0) else shortest m q
    let digits := decimal d
    let before : Int := digits.length + e
    let full := match layout.positional with
      | none => true
      | some (low, high) => low ≤ before && before ≤ high
    let body :=
      if full then positionalText layout.pointAlways digits before
      else exponentText digits before
    String.ofList (if negative then '-' :: body else body)

/-- The text of a floating-point number with all its digits and no exponent. -/
def Binary64.text (x : Binary64) : String := Layout.plain.text x

end FaultInjection.Number
