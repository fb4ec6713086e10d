/-!
# Text from octets

Octets are read as UTF-8 one at a time. A malformed stretch yields one gap: the longest start of a
character that cannot be continued, or a single octet that starts none. Strict reading refuses a
gap, lenient reading shows it as the replacement character.
-/

namespace FaultInjection.Text

/-- A character of which some octets are still missing. -/
structure Unfinished where
  /-- The bits read so far. -/
  bits : Nat
  /-- How many octets are missing after the next one. -/
  after : Nat
  /-- The least next octet that continues the character. -/
  low : Nat := 0x80
  /-- The greatest next octet that continues the character. -/
  high : Nat := 0xBF
deriving DecidableEq

/-! ## One octet at a time -/

/-- What an octet at the start of a character gives: the characters and gaps that are complete, and
the character it begins. -/
def startChar (b : UInt8) : List (Option Char) × Option Unfinished :=
  let n := b.toNat
  if n < 0x80 then ([some (Char.ofNat n)], none)
  else if n < 0xC2 then ([none], none)
  else if n < 0xE0 then ([], some { bits := n - 0xC0, after := 0 })
  else if n = 0xE0 then ([], some { bits := 0, after := 1, low := 0xA0 })
  else if n = 0xED then ([], some { bits := 0xD, after := 1, high := 0x9F })
  else if n < 0xF0 then ([], some { bits := n - 0xE0, after := 1 })
  else if n = 0xF0 then ([], some { bits := 0, after := 2, low := 0x90 })
  else if n < 0xF4 then ([], some { bits := n - 0xF0, after := 2 })
  else if n = 0xF4 then ([], some { bits := 4, after := 2, high := 0x8F })
  else ([none], none)

/-- An octet that does not continue the character closes it as a gap and starts the next one. -/
def continueChar (u : Unfinished) (b : UInt8) : List (Option Char) × Option Unfinished :=
  let n := b.toNat
  if u.low ≤ n ∧ n ≤ u.high then
    let bits := u.bits * 64 + (n - 0x80)
    match u.after with
    | 0 => ([some (Char.ofNat bits)], none)
    | k + 1 => ([], some { bits, after := k })
  else
    let (out, next) := startChar b
    (none :: out, next)

/-- The characters of the octets that follow an unfinished one; `none` stands for a gap. -/
def decodeFrom : Option Unfinished → List UInt8 → List (Option Char)
  | none, [] => []
  | some _, [] => [none]
  | u, b :: r =>
    let (out, next) := match u with
      | none => startChar b
      | some u => continueChar u b
    out ++ decodeFrom next r

/-! ## Whole texts -/

/-- The text of well-formed octets. -/
def decode? (octets : List UInt8) : Option String :=
  ((decodeFrom none octets).mapM id).map String.ofList

/-- The text of any octets, with U+FFFD for each gap. -/
def decodeLenient (octets : List UInt8) : String :=
  String.ofList ((decodeFrom none octets).map (·.getD '\uFFFD'))

/-- The octets of a text. -/
def encode (s : String) : List UInt8 := s.toUTF8.toList

end FaultInjection.Text
