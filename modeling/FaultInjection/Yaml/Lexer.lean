import FaultInjection.Yaml.Scalars

/-!
# From characters to tokens

Indentation is told by a stack of columns, and brackets by a stack of levels. A scalar or a bracket
may turn out to be a key when a colon follows it in the same line, within some distance; until that
is known the tokens from it on are not read by anyone. So where the text goes wrong, the document
ends before the first token that might have been a key.
-/

namespace FaultInjection.Yaml

/-! ## States -/

/-- A token that may turn out to be a key. -/
structure PendingKey where
  /-- It can be nothing but a key. -/
  required : Bool
  /-- The number of the token. -/
  number : Nat
  /-- Where it starts. -/
  start : Cursor

/-- How many octets the colon of a key may be from its start. -/
def keyReach : Nat := 1024

/-- What starts at a place can still be a key here. -/
def PendingKey.isLive (key : PendingKey) (here : Cursor) : Bool :=
  key.start.line = here.line && here.index ≤ key.start.index + keyReach

/-- A text that is being cut into tokens. -/
structure Lexer where
  /-- Where it stands. -/
  cursor : Cursor
  /-- The tokens so far, the last one in front. -/
  tokens : List Token
  /-- The indentation of the block here; negative outside of all blocks. -/
  indent : Int
  /-- The indentations of the blocks around it. -/
  outer : List Int
  /-- A key may start here. -/
  keyAllowed : Bool
  /-- The token that may be a key, for this level of brackets and for those around it. -/
  keys : List (Option PendingKey)

namespace Lexer

/-- The state at the start of a text. -/
def ofText (text : List Char) : Lexer :=
  { cursor := .ofText text, tokens := [], indent := -1, outer := [], keyAllowed := true,
    keys := [none] }

/-- How many tokens there are. -/
def count (l : Lexer) : Nat := l.tokens.length

/-- The state is inside brackets. -/
def inFlow (l : Lexer) : Bool := 1 < l.keys.length

/-- One more token. -/
def emit (l : Lexer) (t : Token) : Lexer := { l with tokens := t :: l.tokens }

/-- One more token in front of the token with a number. -/
def emitAt (l : Lexer) (number : Nat) (t : Token) : Lexer :=
  { l with tokens := l.tokens.insertIdx (l.count - number) t }

/-- The state at another place. -/
def moveTo (l : Lexer) (c : Cursor) : Lexer := { l with cursor := c }

/-- The state in which a key may start here, or not. -/
def allowKey (l : Lexer) (allowed : Bool) : Lexer := { l with keyAllowed := allowed }

/-! ## Keys -/

/-- The state without the tokens that can be keys no more. It is an error if one had to be. -/
def expireKeys (l : Lexer) : Option Lexer := do
  let keys ← l.keys.mapM fun
    | none => some none
    | some k =>
      if k.isLive l.cursor then some (some k) else if k.required then none else some none
  return { l with keys }

/-- The state in which no token of this level may be a key. -/
def dropKey (l : Lexer) : Option Lexer :=
  match l.keys with
  | some k :: r => if k.required then none else some { l with keys := none :: r }
  | _ => some l

/-- The next token may be a key, if one may start here. -/
def saveKey (l : Lexer) : Option Lexer :=
  if l.keyAllowed then do
    let l ← l.dropKey
    let key : PendingKey :=
      { required := !l.inFlow && l.indent = l.cursor.column, number := l.count, start := l.cursor }
    return { l with keys := some key :: l.keys.tail }
  else some l

/-- How many tokens can be read before it is known whether one is a key. -/
def settled (l : Lexer) : Nat :=
  l.keys.foldl (fun n key => match key with
    | some k => min n k.number
    | none => n) l.count

/-! ## Indentation -/

/-- A block begins at a column, before the token with a number. -/
def openBlock (l : Lexer) (column number : Nat) (t : Token) : Lexer :=
  if l.inFlow || (column : Int) ≤ l.indent then l
  else ({ l with outer := l.indent :: l.outer, indent := column }).emitAt number t

/-- The blocks that are indented by more than a column end. -/
def closeBlocks (column : Int) : List Int → Lexer → Lexer
  | [], l => l
  | indent :: outer, l =>
    if column < l.indent then
      closeBlocks column outer { l.emit .blockEnd with indent, outer }
    else l

/-- The blocks that are indented by more than a column end, outside of brackets. -/
def dedent (l : Lexer) (column : Int) : Lexer :=
  if l.inFlow then l else closeBlocks column l.outer l

/-! ## Single tokens -/

/-- A token of some characters, after which a key may start or not. -/
def mark (l : Lexer) (t : Token) (length : Nat) (allowed : Bool) : Lexer :=
  (l.emit t).moveTo (l.cursor.skip length) |>.allowKey allowed

/-- A bracket opens. -/
def openFlow (l : Lexer) (t : Token) : Option Lexer := do
  let l ← l.saveKey
  return ({ l with keys := none :: l.keys }).mark t 1 true

/-- A bracket closes. -/
def closeFlow (l : Lexer) (t : Token) : Option Lexer := do
  let l ← l.dropKey
  let keys := if l.inFlow then l.keys.tail else l.keys
  return ({ l with keys }).mark t 1 false

/-- A start or an end of a document. -/
def documentMark (l : Lexer) (t : Token) : Option Lexer := do
  let l ← (l.dedent (-1)).dropKey
  return l.mark t 3 false

/-- An entry of a block, which may begin one. -/
def blockEntry (l : Lexer) : Option Lexer := do
  if !l.inFlow && !l.keyAllowed then none
  let l := l.openBlock l.cursor.column l.count .blockSequenceStart
  return (← l.dropKey).mark .blockEntry 1 true

/-- A key that says so itself. -/
def explicitKey (l : Lexer) : Option Lexer := do
  if !l.inFlow && !l.keyAllowed then none
  let l := l.openBlock l.cursor.column l.count .blockMappingStart
  let l ← l.dropKey
  return l.mark .key 1 (!l.inFlow)

/-- A colon, which may show that a token before it is a key. -/
def valueMark (l : Lexer) : Option Lexer :=
  match l.keys with
  | some k :: r =>
    let l := ({ l with keys := none :: r }).emitAt k.number .key
    some ((l.openBlock k.start.column k.number .blockMappingStart).mark .value 1 false)
  | _ =>
    if !l.inFlow && !l.keyAllowed then none
    else
      let l := l.openBlock l.cursor.column l.count .blockMappingStart
      some (l.mark .value 1 (!l.inFlow))

/-- A token that is read from here, and that may be a key. -/
def word (l : Lexer) (read : Cursor → Option (Token × Cursor)) : Option Lexer := do
  let l ← l.saveKey
  let (t, c) ← read l.cursor
  return ((l.emit t).moveTo c).allowKey false

/-- A plain scalar. A key may start after it where a line has ended. -/
def plain (l : Lexer) : Option Lexer := do
  let l ← l.saveKey
  let (t, ended, c) ← readPlain l.inFlow (l.indent + 1).toNat l.cursor
  return ((l.emit t).moveTo c).allowKey ended

/-- A scalar in a block. -/
def block (l : Lexer) (folded : Bool) : Option Lexer := do
  let l ← l.dropKey
  let (t, c) ← readBlock folded l.indent l.cursor
  return ((l.emit t).moveTo c).allowKey true

/-- The end of the text. -/
def finish (l : Lexer) : Option Lexer := do
  let l ← (l.dedent (-1)).dropKey
  return l.emit .streamEnd

/-- A directive. -/
def directive (l : Lexer) : Option Lexer := do
  let l ← (l.dedent (-1)).dropKey
  let (t, c) ← readDirective l.cursor
  return ((l.emit t).moveTo c).allowKey false

/-! ## Next tokens -/

/-- The separators and comments before the next token. A byte order mark separates in front of a
line, and a tab where no key can start. -/
def skipSeparators : Nat → Lexer → Lexer
  | 0, l => l
  | fuel + 1, l =>
    let marked := l.cursor.column = 0 ∧ l.cursor.head? = some byteOrderMark
    let c := if marked then l.cursor.next else l.cursor
    let c := c.skipWhile fun x => x = ' ' || ((l.inFlow || !l.keyAllowed) && x = '\t')
    let c := if c.head? = some '#' then c.skipLine else c
    match c.rest with
    | x :: _ =>
      if isBreak x then skipSeparators fuel ((l.moveTo c.next).allowKey (l.keyAllowed || !l.inFlow))
      else l.moveTo c
    | [] => l.moveTo c

/-- A character that starts no plain scalar. -/
def isIndicator (c : Char) : Bool := "-?:,[]\x7b\x7d#&*!|>'\"%@\x60".toList.contains c

/-- A plain scalar starts with a character before another one. -/
def startsPlain (inFlow : Bool) (x : Char) (next : Option Char) : Bool :=
  (!isIndicator x && !isSpace x)
    || (x = '-' && !(next.map isSpace).getD false)
    || (!inFlow && (x = '?' || x = ':') && !endsWord next)

/-- The token that starts here. -/
def dispatch (l : Lexer) (x : Char) : Option Lexer :=
  let next := l.cursor.peek? 1
  if l.cursor.column = 0 ∧ x = '%' then l.directive
  else match documentMark? l.cursor with
    | some t => l.documentMark t
    | none =>
      match x with
      | '[' => l.openFlow .flowSequenceStart
      | '\x7b' => l.openFlow .flowMappingStart
      | ']' => l.closeFlow .flowSequenceEnd
      | '\x7d' => l.closeFlow .flowMappingEnd
      | ',' => do return (← l.dropKey).mark .flowEntry 1 true
      | '*' => l.word (readName .alias)
      | '&' => l.word (readName .anchor)
      | '!' => l.word (readTag l.inFlow)
      | '\'' => l.word (readQuoted false)
      | '"' => l.word (readQuoted true)
      | _ =>
        if x = '-' ∧ endsWord next then l.blockEntry
        else if x = '?' ∧ (l.inFlow ∨ endsWord next) then l.explicitKey
        else if x = ':' ∧ (l.inFlow ∨ endsWord next) then l.valueMark
        else if x = '|' ∧ !l.inFlow then l.block false
        else if x = '>' ∧ !l.inFlow then l.block true
        else if startsPlain l.inFlow x next then l.plain
        else none

/-- The next token, with the ends of blocks before it. -/
def step (l : Lexer) : Option Lexer := do
  let l ← (skipSeparators (l.cursor.rest.length + 1) l).expireKeys
  match l.cursor.rest with
  | [] => l.finish
  | x :: _ => (l.dedent l.cursor.column).dispatch x

/-! ## Whole texts -/

/-- The tokens that are certain, if the text goes wrong after them. -/
def cutOff (settled : Nat) (l : Lexer) : List Token :=
  l.tokens.reverse.take settled ++ [.malformed]

/-- A token of some level can be nothing but a key, which it did not become. -/
def missesKey (l : Lexer) : Bool := l.keys.any fun key => (key.map (·.required)).getD false

/-- The tokens of the rest of a text, of which some are known to be settled. -/
def run : Nat → Nat → Lexer → List Token
  | 0, settled, l => l.cutOff settled
  | fuel + 1, settled, l =>
    match l.expireKeys with
    | none => l.cutOff settled
    | some l =>
      let settled := max settled l.settled
      match l.step with
      | none => l.cutOff settled
      | some l' =>
        if l'.tokens.head? = some .streamEnd then
          if l'.missesKey then l'.cutOff settled else l'.tokens.reverse
        else run fuel settled l'

end Lexer

/-- The tokens of a text, the last of which tells how it ends. -/
def tokenize (text : List Char) : List Token :=
  Lexer.run (2 * text.length + 2) 0 (.ofText text)

end FaultInjection.Yaml
