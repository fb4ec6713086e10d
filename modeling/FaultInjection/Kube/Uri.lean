import FaultInjection.Number.Decimal
import FaultInjection.Text.Pieces
import FaultInjection.Text.Utf8

/-!
# Request targets

A request names what it is for by a path and a query. The path is taken as it is, so that a name in
it can hold a question mark, which starts the query, or a number sign, which ends the target; the
query is a list of names and values in the encoding of forms.
-/

namespace FaultInjection.Kube

open Number Text

/-! ## The encoding of forms -/

/-- An octet that stands for itself in a form. -/
def isFormOctet (b : UInt8) : Bool :=
  let n := b.toNat
  (48 ≤ n && n ≤ 57) || (65 ≤ n && n ≤ 90) || (97 ≤ n && n ≤ 122)
    || n == 0x2A || n == 0x2D || n == 0x2E || n == 0x5F

/-- A hexadecimal digit. -/
def upperHexDigit (n : Nat) : Char := Char.ofNat (if n < 10 then 48 + n else 55 + n)

/-- An octet in a form. -/
def formOctet (b : UInt8) : List Char :=
  if isFormOctet b then [Char.ofNat b.toNat]
  else if b = 0x20 then ['+']
  else ['%', upperHexDigit (b.toNat / 16), upperHexDigit (b.toNat % 16)]

/-- A text in a form. -/
def formText (s : String) : List Char := (encode s).flatMap formOctet

/-- Names and values as a form. -/
def writeForm (pairs : List (String × String)) : List Char :=
  joinWith '&' (pairs.map fun p => formText p.1 ++ '=' :: formText p.2)

/-- The octets that an encoded text stands for. -/
def formOctets : List UInt8 → List UInt8
  | [] => []
  | 0x2B :: r => 0x20 :: formOctets r
  | 0x25 :: a :: b :: r =>
    match digitValue? 16 (Char.ofNat a.toNat), digitValue? 16 (Char.ofNat b.toNat) with
    | some high, some low => .ofNat (16 * high + low) :: formOctets r
    | _, _ => 0x25 :: formOctets (a :: b :: r)
  | b :: r => b :: formOctets r
termination_by s => s.length

/-- The text that an encoded text stands for. -/
def formValue (s : List Char) : String := decodeLenient (formOctets (encode (String.ofList s)))

/-- The names and values of a form. -/
def readForm (s : List Char) : List (String × String) :=
  ((splitAt '&' s).filter (· ≠ [])).map fun part =>
    match cutAt '=' part with
    | some (name, value) => (formValue name, formValue value)
    | none => (formValue part, "")

/-! ## Targets -/

/-- What a request is for. -/
structure Uri where
  /-- The path, from the first slash on. -/
  path : String
  /-- The names and values after the question mark. -/
  query : List (String × String)
deriving DecidableEq, Repr

/-- A character that may stand in a path. -/
def isPathChar (c : Char) : Bool :=
  let n := c.toNat
  n == 0x21 || n == 0x22 || (0x24 ≤ n && n ≤ 0x3B) || n == 0x3D || (0x40 ≤ n && n ≤ 0x5F)
    || (0x61 ≤ n && n ≤ 0x7E) || 0x80 ≤ n

/-- A character that may stand in a query. -/
def isQueryChar (c : Char) : Bool :=
  let n := c.toNat
  n == 0x21 || (0x24 ≤ n && n ≤ 0x3B) || n == 0x3D || (0x3F ≤ n && n ≤ 0x7E) || 0x80 ≤ n

/-- Why a text is no target. -/
inductive UriFault where
  | character
  | authority
  | form
  | empty
  | tooLong
  | schemeTooLong
deriving DecidableEq, Repr

/-- The fault in words. -/
def UriFault.message : UriFault → String
  | .character => "invalid uri character"
  | .authority => "invalid authority"
  | .form => "invalid format"
  | .empty => "empty string"
  | .tooLong => "uri too long"
  | .schemeTooLong => "scheme too long"

/-- A text is longer than any target. -/
def isTooLong (s : List Char) : Bool := 65534 < (String.ofList s).utf8ByteSize

/-- The path of a target, and its query if there is one. A number sign ends the target. -/
def splitTarget (s : List Char) : Except UriFault (List Char × Option (List Char)) :=
  let (path, rest) := s.span fun c => c ≠ '?' ∧ c ≠ '#'
  let query := match rest with
    | '?' :: r => some (r.takeWhile (· ≠ '#'))
    | _ => none
  if isTooLong s then .error .tooLong
  else if path.all isPathChar && (query.getD []).all isQueryChar then .ok (path, query)
  else .error .character

/-- The target that a text spells. -/
def Uri.read (s : List Char) : Except UriFault Uri :=
  (splitTarget s).map fun (path, query) =>
    { path := String.ofList path, query := readForm (query.getD []) }

end FaultInjection.Kube
