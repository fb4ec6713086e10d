import FaultInjection.Number.Literal
import FaultInjection.Number.Shortest
import FaultInjection.Number.Bounded
import FaultInjection.Text.Quoted
import FaultInjection.Yaml.Token

/-!
# What scalars stand for

A plain scalar stands for null, a truth value or a number if it is spelt like one, and for its text
otherwise. A tag can demand a kind. Digits that begin with a zero are no number.
-/

namespace FaultInjection.Yaml

open Number

/-! ## Values of scalars -/

/-- What a scalar stands for. -/
inductive Atom where
  | null
  | bool (b : Bool)
  | whole (n : Int)
  | real (x : Binary64)
  | text (s : String)
deriving DecidableEq, Repr

/-- A whole number that does not fit sixty-four bits. -/
def isWide (n : Int) : Bool :=
  !decide ((IntegerRange.signed 64).Contains n) && !decide ((IntegerRange.unsigned 64).Contains n)

/-- An atom as a message shows it. -/
def Atom.shown : Atom → String
  | .null => "unit value"
  | .bool b => "boolean `" ++ (if b then "true" else "false") ++ "`"
  | .whole n =>
    "integer `" ++ signedText n ++ "`"
      ++ (if isWide n then (if n < 0 then " as i128" else " as u128") else "")
  | .real x => "floating point `" ++ Layout.pointed.text x ++ "`"
  | .text s => "string " ++ Text.quoted s

/-! ## Spellings -/

/-- A spelling of null. -/
def isNull (s : String) : Bool := ["null", "Null", "NULL", "~"].contains s

/-- The truth value of a spelling. -/
def readBool (s : String) : Option Bool :=
  if ["true", "True", "TRUE"].contains s then some true
  else if ["false", "False", "FALSE"].contains s then some false
  else none

/-- A text that begins with a sign. -/
def startsWithSign (s : List Char) : Bool := s.head? = some '+' || s.head? = some '-'

/-- Digits that begin with a zero, after an optional sign. -/
def isPaddedNumber (s : List Char) : Bool :=
  let digits := if startsWithSign s then s.tail else s
  1 < digits.length && digits.head? = some '0' && digits.all isDigit

/-- The bases that have a mark. -/
def markedBases : List (Char × Nat) := [('x', 16), ('o', 8), ('b', 2)]

/-- The number of a range that follows the mark of a base. -/
def readMarked (range : IntegerRange) (negative : Bool) (s : List Char) : Option Int :=
  match s with
  | '0' :: mark :: r =>
    match markedBases.lookup mark with
    | none => none
    | some base =>
      if startsWithSign r && !negative then none
      else (readInteger base range (if negative then '-' :: r else r)).toOption
  | _ => none

/-- A mark of a base that is followed by a sign. -/
def hasSignedMark (s : List Char) : Bool :=
  match s with
  | '0' :: mark :: r => (markedBases.lookup mark).isSome && startsWithSign r
  | _ => false

/-- The number of a range without a minus sign. -/
def readUnsigned (range : IntegerRange) (s : List Char) : Option Int :=
  let digits := if s.head? = some '+' then s.tail else s
  if hasSignedMark digits then none
  else match readMarked range false digits with
    | some n => some n
    | none =>
      if startsWithSign digits || isPaddedNumber s then none
      else (readInteger 10 range digits).toOption

/-- The number of a range that may have a minus sign. -/
def readSigned (range : IntegerRange) (s : List Char) : Option Int :=
  let plus := s.head? = some '+'
  let digits := if plus then s.tail else s
  if plus && startsWithSign digits then none
  else if hasSignedMark digits then none
  else
    let marked := readMarked range false digits
      <|> (if s.head? = some '-' then readMarked range true s.tail else none)
    match marked with
    | some n => some n
    | none => if isPaddedNumber s then none else (readInteger 10 range digits).toOption

/-- The number of a range with a minus sign. -/
def readNegative (range : IntegerRange) (s : List Char) : Option Int :=
  match (if s.head? = some '-' then readMarked range true s.tail else none) with
  | some n => some n
  | none => if isPaddedNumber s then none else (readInteger 10 range s).toOption

/-- The whole number of a spelling, of at most sixty-four bits if it fits. -/
def readWhole (s : List Char) : Option Int :=
  readUnsigned (.unsigned 64) s <|> readNegative (.signed 64) s
    <|> readUnsigned (.unsigned 128) s <|> readNegative (.signed 128) s

/-- The floating-point number of a spelling. Words and numbers that are too large have none. -/
def readReal (s : List Char) : Option Binary64 :=
  let plus := s.head? = some '+'
  let digits := if plus then s.tail else s
  if plus && startsWithSign digits then none
  else if [".inf", ".Inf", ".INF"].contains (String.ofList digits) then some (.infinite false)
  else if ["-.inf", "-.Inf", "-.INF"].contains (String.ofList s) then some (.infinite true)
  else if [".nan", ".NaN", ".NAN"].contains (String.ofList s) then some .nan
  else (readBinary64 digits).filter (·.isFinite)

/-- What a plain scalar stands for. -/
def atomOf (s : String) : Atom :=
  let chars := s.toList
  if chars = [] || isNull s then .null
  else match readBool s with
    | some b => .bool b
    | none =>
      match readWhole chars with
      | some n => .whole n
      | none =>
        match (if isPaddedNumber chars then none else readReal chars) with
        | some x => .real x
        | none => .text s

/-! ## Tags -/

/-- The tag of a kind that every document knows. -/
def coreTag (kind : String) : String := "tag:yaml.org,2002:" ++ kind

/-- A tag that only this document knows. -/
def isLocalTag (tag : Option String) : Bool := (tag.getD "").toList.head? = some '!'

/-- A text that is not of the kind that its tag demands: the text and the kind. -/
structure Mistagged where
  /-- The text. -/
  text : String
  /-- The kind. -/
  kind : String
deriving DecidableEq, Repr

/-- What a scalar with a tag and a style stands for. -/
def atomOfScalar (tag : Option String) (style : Style) (s : String) : Except Mistagged Atom :=
  let demand (kind : String) (found : Option Atom) : Except Mistagged Atom :=
    match found with
    | some a => .ok a
    | none => .error ⟨s, kind⟩
  match tag with
  | none => .ok (if style = .plain then atomOf s else .text s)
  | some t =>
    if t = coreTag "bool" then demand "a boolean" ((readBool s).map .bool)
    else if t = coreTag "int" then demand "an integer" ((readWhole s.toList).map .whole)
    else if t = coreTag "float" then demand "a float" ((readReal s.toList).map .real)
    else if t = coreTag "null" then demand "null" (if isNull s then some .null else none)
    else .ok (if isLocalTag tag && style = .plain then atomOf s else .text s)

end FaultInjection.Yaml
