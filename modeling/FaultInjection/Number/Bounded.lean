import FaultInjection.Number.Decimal

/-!
# Integers within bounds

Reading an integer of a bounded range from its digits in some base. A sign may come first; a minus
sign is refused where the range has no negative number. The first offending character decides which
fault is reported.
-/

namespace FaultInjection.Number

/-- Why a text is no integer of a range. -/
inductive IntegerFault where
  | empty
  | invalidDigit
  | tooLarge
  | tooSmall
deriving DecidableEq, Repr

/-- The fault in words. -/
def IntegerFault.message : IntegerFault → String
  | .empty => "cannot parse integer from empty string"
  | .invalidDigit => "invalid digit found in string"
  | .tooLarge => "number too large to fit in target type"
  | .tooSmall => "number too small to fit in target type"

/-- An interval of integers that holds zero. -/
structure IntegerRange where
  /-- How far the range reaches below zero. -/
  below : Nat
  /-- The greatest number of the range. -/
  greatest : Nat
deriving DecidableEq, Repr

namespace IntegerRange

/-- The unsigned numbers of a width. -/
def unsigned (bits : Nat) : IntegerRange := ⟨0, Nat.pow 2 bits - 1⟩

/-- The signed numbers of a width. -/
def signed (bits : Nat) : IntegerRange := ⟨Nat.pow 2 (bits - 1), Nat.pow 2 (bits - 1) - 1⟩

/-- Membership in a range. -/
def Contains (range : IntegerRange) (n : Int) : Prop :=
  -(range.below : Int) ≤ n ∧ n ≤ range.greatest

instance (range : IntegerRange) (n : Int) : Decidable (range.Contains n) :=
  inferInstanceAs (Decidable (_ ∧ _))

end IntegerRange

/-- The value of `acc` followed by digits, as long as no start of it passes the bound. -/
def readDigits (base bound : Nat) (overflow : IntegerFault) :
    Nat → List Char → Except IntegerFault Nat
  | acc, [] => .ok acc
  | acc, c :: r =>
    match digitValue? base c with
    | none => .error .invalidDigit
    | some d =>
      if acc * base + d ≤ bound then readDigits base bound overflow (acc * base + d) r
      else .error overflow

/-- The integer of a range that a text spells in a base. -/
def readInteger (base : Nat) (range : IntegerRange) : List Char → Except IntegerFault Int
  | [] => .error .empty
  | ['+'] => .error .invalidDigit
  | ['-'] => .error .invalidDigit
  | '+' :: r => (readDigits base range.greatest .tooLarge 0 r).map Int.ofNat
  | '-' :: r =>
    if range.below = 0 then .error .invalidDigit
    else (readDigits base range.below .tooSmall 0 r).map fun n => -(n : Int)
  | s => (readDigits base range.greatest .tooLarge 0 s).map Int.ofNat

end FaultInjection.Number
