/-!
# Decimal numerals

Numbers written with the ten digits, most significant first and without leading zeros, and the
value of a run of digits. Reading undoes writing.
-/

namespace FaultInjection.Number

/-! ## Digits -/

/-- The character of a digit. -/
def digitChar (d : Nat) : Char := Char.ofNat (48 + d)

/-- The value of a digit in a base of at most thirty-six; letters of either case are digits past
nine. -/
def digitValue? (base : Nat) (c : Char) : Option Nat :=
  let n := c.toNat
  let d :=
    if 48 ≤ n ∧ n ≤ 57 then n - 48
    else if 97 ≤ n ∧ n ≤ 122 then n - 87
    else if 65 ≤ n ∧ n ≤ 90 then n - 55
    else 36
  if d < base then some d else none

/-- One of the ten digits. -/
def isDigit (c : Char) : Bool := 48 ≤ c.toNat && c.toNat ≤ 57

theorem digitValue?_digitChar {d : Nat} (h : d < 10) : digitValue? 10 (digitChar d) = some d := by
  have : ∀ d < 10, digitValue? 10 (digitChar d) = some d := by decide
  exact this d h

theorem isDigit_digitChar {d : Nat} (h : d < 10) : isDigit (digitChar d) = true := by
  have : ∀ d < 10, isDigit (digitChar d) = true := by decide
  exact this d h

/-! ## Numerals -/

/-- The numeral of a natural number. -/
def decimal (n : Nat) : List Char :=
  if n < 10 then [digitChar n] else decimal (n / 10) ++ [digitChar (n % 10)]
termination_by n

/-- The numeral of an integer, with a minus sign in front of a negative one. -/
def signedDecimal (n : Int) : List Char :=
  if n < 0 then '-' :: decimal n.natAbs else decimal n.natAbs

/-- The numeral of a natural number as a string. -/
def decimalText (n : Nat) : String := String.ofList (decimal n)

/-- The numeral of an integer as a string. -/
def signedText (n : Int) : String := String.ofList (signedDecimal n)

/-- The value of a run of decimal digits after the digits of `acc`; other characters count as
zero. -/
def digitsValue (acc : Nat) (cs : List Char) : Nat :=
  cs.foldl (fun n c => 10 * n + (digitValue? 10 c).getD 0) acc

theorem digitsValue_append (acc : Nat) (a b : List Char) :
    digitsValue acc (a ++ b) = digitsValue (digitsValue acc a) b := by
  simp [digitsValue, List.foldl_append]

/-- Reading a numeral gives the number that it was written for. -/
theorem digitsValue_decimal (n : Nat) : digitsValue 0 (decimal n) = n := by
  induction n using Nat.strongRecOn with
  | _ n ih =>
    rw [decimal]
    split
    · next h => simp [digitsValue, digitValue?_digitChar h]
    · next h =>
      rw [digitsValue_append, ih (n / 10) (by omega)]
      simp only [digitsValue, List.foldl_cons, List.foldl_nil,
        digitValue?_digitChar (Nat.mod_lt n (by decide : 0 < 10)), Option.getD_some]
      omega

/-- A numeral holds digits only. -/
theorem isDigit_of_mem_decimal {n : Nat} {c : Char} (h : c ∈ decimal n) : isDigit c = true := by
  induction n using Nat.strongRecOn with
  | _ n ih =>
    rw [decimal] at h
    split at h
    · next hn => simp at h; subst h; exact isDigit_digitChar hn
    · rcases List.mem_append.1 h with h | h
      · exact ih (n / 10) (by omega) h
      · simp at h; subst h; exact isDigit_digitChar (Nat.mod_lt n (by decide))

theorem decimal_ne_nil (n : Nat) : decimal n ≠ [] := by
  rw [decimal]
  split <;> simp

end FaultInjection.Number
