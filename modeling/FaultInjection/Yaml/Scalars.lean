import FaultInjection.Number.Bounded
import FaultInjection.Text.Utf8
import FaultInjection.Yaml.Cursor
import FaultInjection.Yaml.Token

/-!
# Written forms of YAML

Reading what a token of one piece is written as: scalars in quotes, plain and in blocks, names, tags
and directives. Line breaks inside a scalar are folded: one becomes a space, and of several the
first is dropped.
-/

namespace FaultInjection.Yaml

open Number

/-! ## Folding -/

/-- The text that stands for separators between two words. -/
def foldGap (gap : List Char) : List Char :=
  match gap.filter isBreak with
  | [] => gap
  | ['\n'] => [' ']
  | '\n' :: breaks => breaks
  | breaks => breaks

/-- A start or an end of a document stands here. -/
def documentMark? (c : Cursor) : Option Token :=
  if c.column = 0 ∧ endsWord (c.peek? 3) then
    match c.rest with
    | '-' :: '-' :: '-' :: _ => some .documentStart
    | '.' :: '.' :: '.' :: _ => some .documentEnd
    | _ => none
  else none

/-! ## Scalars in quotes -/

/-- The character of an escape of one letter. -/
def escapeOf? : Char → Option Char
  | '0' => some '\x00'
  | 'a' => some '\x07'
  | 'b' => some '\x08'
  | 't' => some '\t'
  | '\t' => some '\t'
  | 'n' => some '\n'
  | 'v' => some '\x0b'
  | 'f' => some '\x0c'
  | 'r' => some '\r'
  | 'e' => some '\x1b'
  | ' ' => some ' '
  | '"' => some '"'
  | '/' => some '/'
  | '\\' => some '\\'
  | 'N' => some '\u0085'
  | '_' => some '\u00a0'
  | 'L' => some '\u2028'
  | 'P' => some '\u2029'
  | _ => none

/-- How many digits follow the letter of an escape with a number. -/
def escapeLength? : Char → Option Nat
  | 'x' => some 2
  | 'u' => some 4
  | 'U' => some 8
  | _ => none

/-- The number of hexadecimal digits. -/
def hexNumber? (digits : List Char) : Option Nat :=
  digits.foldlM (fun n d => (digitValue? 16 d).map (16 * n + ·)) 0

/-- The character of an escape after its backslash, and how long the escape is. -/
def readEscape (s : List Char) : Option (Char × Nat) :=
  match s with
  | [] => none
  | c :: r =>
    match escapeOf? c, escapeLength? c with
    | some x, _ => some (x, 2)
    | none, some length =>
      if r.length < length then none
      else match hexNumber? (r.take length) with
        | some n =>
          if (0xD800 ≤ n ∧ n ≤ 0xDFFF) ∨ 0x10FFFF < n then none
          else some (Char.ofNat n, 2 + length)
        | none => none
    | none, none => none

/-- A run of characters in quotes up to a separator, the closing quote, or an escaped line end; at
last whether it was one. The characters before come first, the last one in front. -/
def quotedRun (double : Bool) : Nat → List Char → Cursor → Option (List Char × Cursor × Bool)
  | 0, _, _ => none
  | fuel + 1, acc, c =>
    if c.atWordEnd then some (acc, c, false)
    else match c.rest with
      | '\'' :: '\'' :: _ =>
        if double then quotedRun double fuel ('\'' :: acc) c.next
        else quotedRun double fuel ('\'' :: acc) (c.skip 2)
      | '\'' :: _ =>
        if double then quotedRun double fuel ('\'' :: acc) c.next else some (acc, c, false)
      | '"' :: _ =>
        if double then some (acc, c, false) else quotedRun double fuel ('"' :: acc) c.next
      | '\\' :: r =>
        if double then
          if (r.head?.map isBreak).getD false then some (acc, c.skip 2, true)
          else match readEscape r with
            | some (x, length) => quotedRun double fuel (x :: acc) (c.skip length)
            | none => none
        else quotedRun double fuel ('\\' :: acc) c.next
      | x :: _ => quotedRun double fuel (x :: acc) c.next
      | [] => some (acc, c, false)

/-- The rest of a scalar in quotes. -/
def quotedRest (double : Bool) : Nat → List Char → Cursor → Option (String × Cursor)
  | 0, _, _ => none
  | fuel + 1, acc, c =>
    if (documentMark? c).isSome || c.rest = [] then none
    else do
      let (acc, c, escaped) ← quotedRun double (fuel + 1) acc c
      if c.head? = some (if double then '"' else '\'') then
        return (String.ofList acc.reverse, c.next)
      let (gap, c) := c.span isGap
      let text := if escaped then gap.filter isBreak else foldGap gap
      quotedRest double fuel (text.reverse ++ acc) c

/-- The scalar in quotes that starts here. -/
def readQuoted (double : Bool) (c : Cursor) : Option (Token × Cursor) :=
  (quotedRest double (c.rest.length + 1) [] c.next).map fun (text, c) => (.scalar .quoted text, c)

/-! ## Plain scalars -/

/-- A character with a meaning of its own inside brackets. -/
def isFlowMark (c : Char) : Bool := c = ',' || c = '[' || c = ']' || c = '\x7b' || c = '\x7d'

/-- A colon inside brackets must not stand before one of these. -/
def followsNoColon (c : Char) : Bool := c = '?' || isFlowMark c

/-- The characters of a plain scalar up to a separator, from a place on; the last one in front. -/
def plainRunFrom (inFlow : Bool) :
    List Char → List Char → Cursor → Option (List Char × Cursor)
  | acc, [], c => some (acc, c)
  | acc, x :: r, c =>
    if isGap x then some (acc, c)
    else if x = ':' && inFlow && (r.head?.map followsNoColon).getD false then none
    else if x = ':' ∧ endsWord r.head? then some (acc, c)
    else if inFlow ∧ isFlowMark x then some (acc, c)
    else plainRunFrom inFlow (x :: acc) r (c.after x r)

/-- The characters of a plain scalar up to a separator, the last one in front. -/
def plainRun (inFlow : Bool) (c : Cursor) : Option (List Char × Cursor) :=
  plainRunFrom inFlow [] c.rest c

/-- A tab before a column, in a line that starts in these separators. -/
def tabBefore (indent : Nat) : Option Nat → List Char → Bool
  | _, [] => false
  | column, x :: r =>
    if isBreak x then tabBefore indent (some 0) r
    else match column with
      | none => tabBefore indent none r
      | some n => (x = '\t' && n < indent) || tabBefore indent (some (n + 1)) r

/-- The rest of a plain scalar after some separators, and whether a line ended after its last
word. -/
def plainRest (inFlow : Bool) (indent : Nat) :
    Nat → List Char → List Char → Bool → Cursor → Option (String × Bool × Cursor)
  | 0, _, _, _, _ => none
  | fuel + 1, acc, pending, ended, c =>
    let stop := some (String.ofList acc.reverse, ended, c)
    if (documentMark? c).isSome || c.head? = some '#' then stop
    else do
      let (run, c) ← plainRun inFlow c
      let (acc, ended) :=
        if run = [] then (acc, ended) else (run ++ (pending.reverse ++ acc), false)
      let (gap, c') := c.span isGap
      if gap = [] then return (String.ofList acc.reverse, ended, c)
      if tabBefore indent none gap then none
      let ended := gap.any isBreak
      if !inFlow && c'.column < indent then return (String.ofList acc.reverse, ended, c')
      plainRest inFlow indent fuel acc (foldGap gap) ended c'

/-- The plain scalar that starts here, and whether a line ended after it. -/
def readPlain (inFlow : Bool) (indent : Nat) (c : Cursor) : Option (Token × Bool × Cursor) :=
  (plainRest inFlow indent (c.rest.length + 1) [] [] false c).map fun (text, ended, c) =>
    (.scalar .plain text, ended, c)

/-! ## Scalars in blocks -/

/-- What becomes of the line breaks at the end of a block. -/
inductive Chomping where
  | clip
  | strip
  | keep
deriving DecidableEq

/-- The signs after the mark of a block: how it ends, and how far it is indented. -/
def blockHeader (c : Cursor) : Option (Chomping × Option Nat × Cursor) :=
  let chomping? (c : Cursor) : Option Chomping := match c.head? with
    | some '+' => some .keep
    | some '-' => some .strip
    | _ => none
  let digit? (c : Cursor) : Option Nat := c.head?.bind (digitValue? 10)
  match chomping? c with
  | some chomping =>
    match digit? c.next with
    | some 0 => none
    | some n => some (chomping, some n, c.skip 2)
    | none => some (chomping, none, c.next)
  | none =>
    match digit? c with
    | some 0 => none
    | some n =>
      match chomping? c.next with
      | some chomping => some (chomping, some n, c.skip 2)
      | none => some (.clip, some n, c.next)
    | none => some (.clip, none, c)

/-- The blank lines at some place of a block, and the widest of their indentations. A tab must not
stand where indentation is expected. -/
def blankLines (indent : Option Nat) :
    Nat → List Char → Nat → Cursor → Option (List Char × Nat × Cursor)
  | 0, _, _, _ => none
  | fuel + 1, breaks, widest, c =>
    let within (column : Nat) : Bool := match indent with
      | none => true
      | some n => column < n
    let spaces := (c.rest.takeWhile (· = ' ')).length
    let c := match indent with
      | none => c.skip spaces
      | some n => c.skip (min spaces (n - c.column))
    let widest := max widest c.column
    if within c.column && c.head? = some '\t' then none
    else match c.rest with
      | x :: _ =>
        if isBreak x then blankLines indent fuel (x :: breaks) widest c.next
        else some (breaks.reverse, widest, c)
      | [] => some (breaks.reverse, widest, c)

/-- The lines of a block from here on: the text so far in reverse, the last line break and the
breaks of the blank lines after it. -/
def blockLines (folded : Bool) (indent : Nat) :
    Nat → List Char → List Char → List Char → Bool → Cursor →
      Option (List Char × List Char × List Char × Cursor)
  | 0, _, _, _, _, _ => none
  | fuel + 1, acc, lead, trail, blankBefore, c =>
    if c.column ≠ indent ∨ c.rest = [] then some (acc, lead, trail, c)
    else do
      let blankHere := (c.head?.map isSpace).getD false
      let lead :=
        if folded && lead = ['\n'] && !blankBefore && !blankHere then
          (if trail = [] then [' '] else [])
        else lead
      let (line, c) := c.span (!isBreak ·)
      let (lead', c) := match c.rest with
        | x :: _ => ([x], c.next)
        | [] => ([], c)
      let (trail', _, c) ← blankLines (some indent) (fuel + 1) [] 0 c
      blockLines folded indent fuel (line.reverse ++ (trail.reverse ++ (lead.reverse ++ acc))) lead'
        trail' blankHere c

/-- The block that starts here, inside a block of some indentation. -/
def readBlock (folded : Bool) (parent : Int) (c : Cursor) : Option (Token × Cursor) := do
  let fuel := c.rest.length + 1
  let (chomping, width?, c) ← blockHeader c.next
  let c := c.skipWhile isSpace
  let c := if c.head? = some '#' then c.skipLine else c
  if !(c.head?.map isBreak).getD true then none
  let c := c.next
  let fixed : Option Nat := width?.map fun n => ((max parent 0) + n).toNat
  let (trail, widest, c) ← blankLines fixed fuel [] 0 c
  let indent := fixed.getD (max (max widest (parent + 1).toNat) 1)
  let (acc, lead, trail, c) ← blockLines folded indent fuel [] [] trail false c
  let tail := match chomping with
    | .strip => []
    | .clip => lead
    | .keep => lead ++ trail
  return (.scalar (if folded then .folded else .literal) (String.ofList (acc.reverse ++ tail)), c)

/-! ## Names and tags -/

/-- The anchor or alias that starts here. -/
def readName (make : String → Token) (c : Cursor) : Option (Token × Cursor) :=
  let (name, c) := c.next.span isNameChar
  let ended := c.atWordEnd || (c.head?.map ("?:,]\x7d%@\x60".toList.contains ·)).getD false
  if name = [] || !ended then none else some (make (String.ofList name), c)

/-- A character that stands for itself in a tag. -/
def isTagChar (verbatim : Bool) (c : Char) : Bool :=
  isNameChar c || ";/?:@&=+$.!~*'()".toList.contains c || (verbatim && ",[]".toList.contains c)

/-- The octet of an escape with a percent sign. -/
def readOctet : List Char → Option Nat
  | '%' :: a :: b :: _ => hexNumber? [a, b]
  | _ => none

/-- How many octets follow the first one of a character. -/
def octetsAfter (first : Nat) : Option Nat :=
  if first < 0x80 then some 0
  else if 0xC0 ≤ first ∧ first < 0xE0 then some 1
  else if 0xE0 ≤ first ∧ first < 0xF0 then some 2
  else if 0xF0 ≤ first ∧ first < 0xF8 then some 3
  else none

/-- The octets of escapes that continue a character. -/
def readOctets : Nat → Cursor → Option (List UInt8 × Cursor)
  | 0, c => some ([], c)
  | n + 1, c => do
    let octet ← readOctet c.rest
    if octet < 0x80 ∨ 0xC0 ≤ octet then none
    let (octets, c) ← readOctets n (c.skip 3)
    return (.ofNat octet :: octets, c)

/-- The rest of a tag, in which escapes stand for octets. -/
def tagText (verbatim : Bool) : Nat → List Char → Cursor → Option (String × Cursor)
  | 0, _, _ => none
  | fuel + 1, acc, c =>
    match c.head? with
    | some '%' => do
      let first ← readOctet c.rest
      let (octets, c) ← readOctets (← octetsAfter first) (c.skip 3)
      let text := Text.decodeLenient (.ofNat first :: octets)
      tagText verbatim fuel (text.toList.reverse ++ acc) c
    | some x =>
      if isTagChar verbatim x then tagText verbatim fuel (x :: acc) c.next
      else some (String.ofList acc.reverse, c)
    | none => some (String.ofList acc.reverse, c)

/-- A tag goes no further than the first null character in it. -/
def untilNull (text : String) : String := String.ofList (text.toList.takeWhile (· ≠ '\x00'))

/-- The handle that starts here: an exclamation mark, or a name between two of them. In a directive
it must be one of these, elsewhere the second mark may be missing. -/
def readHandle (inDirective : Bool) (c : Cursor) : Option (List Char × Cursor) :=
  if c.head? ≠ some '!' then none
  else
    let (name, c) := c.next.span isNameChar
    if c.head? = some '!' then some ('!' :: name ++ ['!'], c.next)
    else if inDirective && name ≠ [] then none
    else some ('!' :: name, c)

/-- The tag that starts here. -/
def readTag (inFlow : Bool) (c : Cursor) : Option (Token × Cursor) := do
  let fuel := c.rest.length + 1
  let (token, c) ←
    if c.peek? 1 = some '<' then do
      let (text, c) ← tagText true fuel [] (c.skip 2)
      if text = "" ∨ c.head? ≠ some '>' then none
      pure (Token.tag "" (untilNull text), c.next)
    else do
      let (handle, c) ← readHandle false c
      if 1 < handle.length ∧ handle.getLast? = some '!' then
        let (text, c) ← tagText false fuel [] c
        if text = "" then none
        pure (Token.tag (String.ofList handle) (untilNull text), c)
      else
        let (text, c) ← tagText false fuel handle.tail.reverse c
        let text := untilNull text
        pure (if text = "" then Token.tag "" "!" else Token.tag "!" text, c)
  if c.atWordEnd || (inFlow && c.head? = some ',') then return (token, c) else none

/-! ## Directives -/

/-- A number of at most nine digits. -/
def readNumber (c : Cursor) : Option (Nat × Cursor) :=
  let (digits, c) := c.span isDigit
  if digits = [] ∨ 9 < digits.length then none else some (digitsValue 0 digits, c)

/-- The directive of a name. -/
def readDirectiveValue (name : String) (c : Cursor) : Option (Token × Cursor) := do
  let c := c.skipWhile isSpace
  match name with
  | "YAML" =>
    let (major, c) ← readNumber c
    if c.head? ≠ some '.' then none
    let (minor, c) ← readNumber c.next
    return (.version major minor, c)
  | "TAG" =>
    let (handle, c) ← readHandle true c
    if !(c.head?.map isSpace).getD false then none
    let c := c.skipWhile isSpace
    let (start, c) ← tagText true (c.rest.length + 1) [] c
    if start = "" || !c.atWordEnd then none
    return (.tagHandle (String.ofList handle) (untilNull start), c)
  | _ => none

/-- The directive that starts here, with the rest of its line. -/
def readDirective (c : Cursor) : Option (Token × Cursor) := do
  let (name, c) := c.next.span isNameChar
  if name = [] || !c.atWordEnd then none
  let (token, c) ← readDirectiveValue (String.ofList name) c
  let c := c.skipWhile isSpace
  let c := if c.head? = some '#' then c.skipLine else c
  if (c.head?.map isBreak).getD true then return (token, c.next) else none

end FaultInjection.Yaml
