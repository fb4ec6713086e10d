import FaultInjection.Json.Value
import FaultInjection.Number.Literal
import FaultInjection.Number.Bounded
import FaultInjection.Text.Utf8

/-!
# Reading JSON text

The strict grammar of JSON, over octets; an octet is shown as the character of its number. A whole
number that does not fit sixty-four bits, and negative zero, are read as floating-point numbers. A
string whose octets are no text, or that spells half of a surrogate pair, is well spelt but garbled.
-/

namespace FaultInjection.Json

open Number

/-- The text after blanks. -/
def skipBlanks (s : List Char) : List Char :=
  s.dropWhile fun c => c = ' ' ∨ c = '\n' ∨ c = '\r' ∨ c = '\t'

/-! ## Strings -/

/-- The number of four hexadecimal digits and the text after them. -/
def readUnit : List Char → Option (Nat × List Char)
  | a :: b :: c :: d :: r =>
    match digitValue? 16 a, digitValue? 16 b, digitValue? 16 c, digitValue? 16 d with
    | some a, some b, some c, some d => some (((a * 16 + b) * 16 + c) * 16 + d, r)
    | _, _, _, _ => none
  | _ => none

/-- The second half of a pair at the start of a text, and the text after it. -/
def readSecondHalf (s : List Char) : Option (Nat × List Char) :=
  match s with
  | '\\' :: 'u' :: r => (readUnit r).filter fun p => 0xDC00 ≤ p.1 && p.1 ≤ 0xDFFF
  | _ => none

/-- The character of an escape with a number, which takes two of them past the first plane. Half of
a pair is no character. -/
def readNumberEscape (s : List Char) : Option (Option Char × List Char) := do
  let (n, r) ← readUnit s
  if 0xD800 ≤ n ∧ n ≤ 0xDBFF then
    match readSecondHalf r with
    | some (m, r) => some (some (Char.ofNat (0x10000 + (n - 0xD800) * 0x400 + (m - 0xDC00))), r)
    | none => some (none, r)
  else if 0xDC00 ≤ n ∧ n ≤ 0xDFFF then some (none, r)
  else some (some (Char.ofNat n), r)

/-- The character of an escape, if it is one, and the text after it. -/
def readEscape : List Char → Option (Option Char × List Char)
  | '"' :: r => some (some '"', r)
  | '\\' :: r => some (some '\\', r)
  | '/' :: r => some (some '/', r)
  | 'b' :: r => some (some (Char.ofNat 8), r)
  | 'f' :: r => some (some (Char.ofNat 12), r)
  | 'n' :: r => some (some '\n', r)
  | 'r' :: r => some (some '\r', r)
  | 't' :: r => some (some '\t', r)
  | 'u' :: r => readNumberEscape r
  | _ => none

/-- The octets of a character, or a gap where there is none. -/
def escapedOctets (c : Option Char) : List (Option UInt8) :=
  match c with
  | some c => (Text.encode (String.singleton c)).map some
  | none => [none]

/-- The rest of a string after its opening quote, unless it is garbled, and the text after it. The
octets before come first, the last one in front. -/
def readString : Nat → List (Option UInt8) → List Char → Option (Option String × List Char)
  | 0, _, _ => none
  | fuel + 1, acc, s =>
    match s with
    | [] => none
    | '"' :: r => some ((acc.reverse.mapM id).bind Text.decode?, r)
    | '\\' :: r => do
      let (c, r) ← readEscape r
      readString fuel ((escapedOctets c).reverse ++ acc) r
    | c :: r =>
      if c.toNat < 0x20 then none else readString fuel (some (.ofNat c.toNat) :: acc) r

/-! ## Numbers -/

/-- The fraction and the exponent of a number as they are written, and the text after them. -/
def splitFraction (s : List Char) : Option (List Char × List Char × List Char) := do
  let (fraction, s) ← match s with
    | '.' :: r =>
      let (digits, r) := splitDigits r
      if digits = [] then none else some (digits, r)
    | s => some ([], s)
  match s with
  | c :: r =>
    if c = 'e' ∨ c = 'E' then
      let (negative, r) := splitSign r
      let (digits, r) := splitDigits r
      if digits = [] then none
      else some (fraction, (if negative then '-' :: digits else digits), r)
    else some (fraction, [], c :: r)
  | [] => some (fraction, [], [])

/-- The number at the start of a text, and the text after it. -/
def readNumber (s : List Char) : Option (Json × List Char) := do
  let (negative, s) := match s with
    | '-' :: r => (true, r)
    | s => (false, s)
  let (whole, s) := splitDigits s
  if whole = [] ∨ (whole.head? = some '0' ∧ 1 < whole.length) then none
  let (fraction, exponent, rest) ← splitFraction s
  let n := digitsValue 0 whole
  let exact : Bool := fraction = [] && exponent = [] &&
    (if negative then n != 0 && n ≤ (IntegerRange.signed 64).below
      else n ≤ (IntegerRange.unsigned 64).greatest)
  if exact then some (int (if negative then -n else n), rest)
  else
    let e ← readExponent (if exponent = [] then [] else 'e' :: exponent)
    some (float (.ofDecimal negative (digitsValue 0 (whole ++ fraction)) (e - fraction.length)),
      rest)

/-! ## Values -/

/-- The text after a word. -/
def dropWord (word : String) (s : List Char) : Option (List Char) :=
  if word.toList.isPrefixOf s then some (s.drop word.length) else none

/-- The object with these members, of which a name may be garbled. -/
def ofNamed (members : List (Option String × Json)) : Json :=
  match members.mapM fun m => m.1.map (·, m.2) with
  | some members => obj members
  | none => garbled

mutual

/-- The value at the start of a text, and the text after it. -/
def readValue : Nat → List Char → Option (Json × List Char)
  | 0, _ => none
  | fuel + 1, s =>
    match skipBlanks s with
    | [] => none
    | 'n' :: r => (dropWord "ull" r).map (null, ·)
    | 't' :: r => (dropWord "rue" r).map (bool true, ·)
    | 'f' :: r => (dropWord "alse" r).map (bool false, ·)
    | '"' :: r => (readString fuel [] r).map fun p => ((p.1.map str).getD garbled, p.2)
    | '[' :: r =>
      match skipBlanks r with
      | ']' :: r => some (arr [], r)
      | r => (readItems fuel r).map fun p => (arr p.1, p.2)
    | '\x7b' :: r =>
      match skipBlanks r with
      | '\x7d' :: r => some (obj [], r)
      | r => (readMembers fuel r).map fun p => (ofNamed p.1, p.2)
    | s => readNumber s

/-- The rest of an array. -/
def readItems : Nat → List Char → Option (List Json × List Char)
  | 0, _ => none
  | fuel + 1, s =>
    match readValue fuel s with
    | none => none
    | some (v, s) =>
      match skipBlanks s with
      | ']' :: r => some ([v], r)
      | ',' :: r => (readItems fuel r).map fun p => (v :: p.1, p.2)
      | _ => none

/-- The rest of an object. -/
def readMembers : Nat → List Char → Option (List (Option String × Json) × List Char)
  | 0, _ => none
  | fuel + 1, s =>
    match skipBlanks s with
    | '"' :: r =>
      match readString fuel [] r with
      | none => none
      | some (name, r) =>
        match skipBlanks r with
        | ':' :: r =>
          match readValue fuel r with
          | none => none
          | some (v, r) =>
            match skipBlanks r with
            | '\x7d' :: r => some ([(name, v)], r)
            | ',' :: r => (readMembers fuel r).map fun p => ((name, v) :: p.1, p.2)
            | _ => none
        | _ => none
    | _ => none

end

/-- The value that octets spell, whether it is sound or not. -/
def ofOctets? (octets : List UInt8) : Option Json :=
  let chars := octets.map fun b => Char.ofNat b.toNat
  match readValue (2 * chars.length + 2) chars with
  | some (v, rest) => if skipBlanks rest = [] then some v else none
  | none => none

/-- The value that a text spells, whether it is sound or not. -/
def ofText? (s : String) : Option Json := ofOctets? (Text.encode s)

/-- The sound value that a text spells. -/
def read? (s : String) : Option Json := (ofText? s).filter (isSound depthLimit)

end FaultInjection.Json
