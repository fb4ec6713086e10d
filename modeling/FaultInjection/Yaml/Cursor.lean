/-!
# Characters of a YAML document

The characters that a document may hold, its line breaks, and a cursor that knows where in the text
it stands. Line breaks of one or two characters are first made alike; two further separators end a
line as well and stay what they are.
-/

namespace FaultInjection.Yaml

/-! ## Classes of characters -/

/-- A character that ends a line. -/
def isBreak (c : Char) : Bool := c = '\n' || c = '\u2028' || c = '\u2029'

/-- A character that separates words within a line. -/
def isSpace (c : Char) : Bool := c = ' ' || c = '\t'

/-- A character that separates words. -/
def isGap (c : Char) : Bool := isSpace c || isBreak c

/-- The end of a word: a separator, or the end of the text. -/
def endsWord : Option Char → Bool
  | none => true
  | some c => isGap c

/-- A character of a name. -/
def isNameChar (c : Char) : Bool :=
  ('a' ≤ c && c ≤ 'z') || ('A' ≤ c && c ≤ 'Z') || ('0' ≤ c && c ≤ '9') || c = '_' || c = '-'

/-- A character that may stand in a document. -/
def isAllowed (c : Char) : Bool :=
  let n := c.toNat
  n == 9 || n == 10 || n == 13 || (0x20 ≤ n && n ≤ 0x7E) || n == 0x85 || (0xA0 ≤ n && n ≤ 0xFFFD)
    || 0x10000 ≤ n

/-- The byte order mark. In front of a line it separates; elsewhere it is a character like any
other. -/
def byteOrderMark : Char := '\uFEFF'

/-- The text with all line breaks alike. -/
def alikeBreaks : List Char → List Char
  | '\r' :: '\n' :: r => '\n' :: alikeBreaks r
  | c :: r => (if c = '\r' ∨ c = '\u0085' then '\n' else c) :: alikeBreaks r
  | [] => []

/-- The text of a document, if all its characters are allowed. -/
def readable? (s : String) : Option (List Char) :=
  if s.toList.all isAllowed then some (alikeBreaks s.toList) else none

/-! ## Cursors -/

/-- A place in a text. -/
structure Cursor where
  /-- The text from here on. -/
  rest : List Char
  /-- How many octets come before. -/
  index : Nat
  /-- How many lines come before this one. -/
  line : Nat
  /-- How many characters come before in this line. -/
  column : Nat

namespace Cursor

/-- The start of a text. -/
def ofText (text : List Char) : Cursor := ⟨text, 0, 0, 0⟩

/-- The character here. -/
def head? (c : Cursor) : Option Char := c.rest.head?

/-- The character some places on. -/
def peek? (c : Cursor) (distance : Nat) : Option Char := c.rest[distance]?

/-- The place after a character. -/
def after (c : Cursor) (x : Char) (rest : List Char) : Cursor :=
  if isBreak x then ⟨rest, c.index + x.utf8Size, c.line + 1, 0⟩
  else ⟨rest, c.index + x.utf8Size, c.line, c.column + 1⟩

/-- The next place. -/
def next (c : Cursor) : Cursor :=
  match c.rest with
  | [] => c
  | x :: r => c.after x r

/-- The place some characters on. -/
def skip (c : Cursor) : Nat → Cursor
  | 0 => c
  | n + 1 => c.next.skip n

/-- The characters of a kind from a place on, and the place after them. -/
def spanFrom (p : Char → Bool) : List Char → Cursor → List Char × Cursor
  | [], c => ([], c)
  | x :: r, c =>
    if p x then
      let (taken, c) := spanFrom p r (c.after x r)
      (x :: taken, c)
    else ([], c)

/-- The characters of a kind from here on, and the place after them. -/
def span (c : Cursor) (p : Char → Bool) : List Char × Cursor := spanFrom p c.rest c

/-- The place after the characters of a kind. -/
def skipWhile (c : Cursor) (p : Char → Bool) : Cursor := (c.span p).2

/-- The place after what is left of the line, its end not included. -/
def skipLine (c : Cursor) : Cursor := c.skipWhile (!isBreak ·)

/-- No word starts here. -/
def atWordEnd (c : Cursor) : Bool := endsWord c.head?

end Cursor

end FaultInjection.Yaml
