/-!
# Binary floating point of 64 bits

A finite number is a sign, a significand of at most fifty-three bits and a power of two. Every
positive quotient of natural numbers is rounded to the nearest such number, and to the even one of
two that are equally near; what lies past the greatest finite number is infinite.
-/

namespace FaultInjection.Number

/-- A floating-point number: `finite s m q` is `m · 2 ^ q`, negated if `s`. -/
inductive Binary64 where
  | nan
  | infinite (negative : Bool)
  | finite (negative : Bool) (significand : Nat) (exponent : Int)
deriving DecidableEq, Repr

namespace Binary64

/-! ## Rounding -/

/-- The least exponent of a finite number. -/
def leastExponent : Int := -1074

/-- The greatest exponent of a finite number. -/
def greatestExponent : Int := 971

/-- `a / b` rounded to the nearest natural number, a half to the even one. -/
def divNearest (a b : Nat) : Nat :=
  let m := a / b
  let r := a % b
  if 2 * r < b then m else if b < 2 * r then m + 1 else m + m % 2

/-- `num / den` divided by `base ^ e`, again as a quotient. -/
def scale (base num den : Nat) (e : Int) : Nat × Nat :=
  if 0 ≤ e then (num, den * Nat.pow base e.toNat) else (num * Nat.pow base (-e).toNat, den)

/-- The greatest `k` such that `2 ^ k` is at most the positive quotient `num / den`. -/
def binaryMagnitude (num den : Nat) : Int :=
  let k : Int := (Nat.log2 num : Int) - Nat.log2 den
  let (a, b) := scale 2 num den k
  if a < b then k - 1 else k

/-- The nearest floating-point number to `num / den`. -/
def ofRatio (negative : Bool) (num den : Nat) : Binary64 :=
  if num = 0 then finite negative 0 leastExponent
  else
    let q := max (binaryMagnitude num den - 52) leastExponent
    let (a, b) := scale 2 num den q
    let m := divNearest a b
    let (m, q) := if m = Nat.pow 2 53 then (Nat.pow 2 52, q + 1) else (m, q)
    if greatestExponent < q then infinite negative else finite negative m q

/-- The nearest floating-point number to `d · 10 ^ e`. Exponents far outside the range are answered
without computing the power. -/
def ofDecimal (negative : Bool) (d : Nat) (e : Int) : Binary64 :=
  if d = 0 then finite negative 0 leastExponent
  else if 400 < e then infinite negative
  else if e + Nat.log2 d + 1 < -400 then finite negative 0 leastExponent
  else
    let (a, b) := scale 10 d 1 (-e)
    ofRatio negative a b

/-- The nearest floating-point number to an integer. -/
def ofInt (n : Int) : Binary64 := ofRatio (n < 0) n.natAbs 1

/-- Positive zero. -/
def zero : Binary64 := finite false 0 leastExponent

instance : Inhabited Binary64 := ⟨zero⟩

/-! ## Comparisons -/

/-- A number that is neither infinite nor the non-number. -/
def isFinite : Binary64 → Bool
  | finite .. => true
  | _ => false

/-- Greater than zero. -/
def isPositive : Binary64 → Bool
  | nan => false
  | infinite negative => !negative
  | finite negative m _ => !negative && m != 0

/-- At least zero and at most one. -/
def inUnitInterval : Binary64 → Bool
  | nan => false
  | infinite _ => false
  | finite negative m q =>
    m == 0 || (!negative && (let (a, b) := scale 2 m 1 (-q); a ≤ b))

end Binary64

end FaultInjection.Number
