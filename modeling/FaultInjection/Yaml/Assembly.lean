import FaultInjection.Yaml.Lexer
import FaultInjection.Yaml.Node

/-!
# From tokens to documents

The tree of a document is read from its tokens by descent. A place that may be empty is an empty
scalar; a token that fits nowhere cuts the tree, and then nothing more is read.
-/

namespace FaultInjection.Yaml

/-! ## States -/

/-- Tokens that are being put together. -/
structure Assembly where
  /-- The tokens that are left. -/
  tokens : List Token
  /-- The texts that handles of tags stand for. -/
  handles : List (String × String)
  /-- The numbers of anchors, the last one of a name in front. -/
  anchors : List (String × Nat)
  /-- The numbers that were given, each with the place at which its node starts, the last one in
  front. -/
  given : List (Nat × Nat)
  /-- The nodes that have been named, by the place at which they start. -/
  bodies : List (Nat × Node)
  /-- The tree is cut. -/
  broken : Bool

namespace Assembly

/-- The next token. -/
def head (s : Assembly) : Token := s.tokens.head?.getD .malformed

/-- The state after the next token. -/
def next (s : Assembly) : Assembly := { s with tokens := s.tokens.tail }

/-- The state in which the tree is cut. -/
def stop (s : Assembly) : Assembly := { s with broken := true, tokens := [] }

/-- How many different names anchors have had. -/
def nameCount (s : Assembly) : Nat := ((s.anchors.map (·.1)).eraseDups).length

/-! ## Properties of nodes -/

/-- The text that a handle stands for unless it is declared otherwise. -/
def usualHandles : List (String × String) := [("!", "!"), ("!!", "tag:yaml.org,2002:")]

/-- The tag of a handle and a suffix. -/
def tagOf? (s : Assembly) (handle suffix : String) : Option String :=
  if handle = "" then some suffix else (s.handles.lookup handle).map (· ++ suffix)

/-- The anchor in front of a node. -/
def takeAnchor (s : Assembly) : Option String × Assembly :=
  match s.head with
  | .anchor name => (some name, s.next)
  | _ => (none, s)

/-- The tag in front of a node. -/
def takeTag (s : Assembly) : Option (String × String) × Assembly :=
  match s.head with
  | .tag handle suffix => (some (handle, suffix), s.next)
  | _ => (none, s)

/-- The anchor and the tag in front of a node, in either order. -/
def takeProperties (s : Assembly) : Option String × Option (String × String) × Assembly :=
  match s.head with
  | .tag .. =>
    let (tag, s) := s.takeTag
    let (anchor, s) := s.takeAnchor
    (anchor, tag, s)
  | _ =>
    let (anchor, s) := s.takeAnchor
    let (tag, s) := s.takeTag
    (anchor, tag, s)

/-- A node with an anchor begins: it is given a number and a place. -/
def beginNode (anchor : Option String) (s : Assembly) : Option Nat × Assembly :=
  match anchor with
  | none => (none, s)
  | some name =>
    let number := s.nameCount
    let place := s.given.length
    (some place, { s with
      anchors := (name, number) :: s.anchors
      given := (number, place) :: s.given })

/-- A node with an anchor is complete. -/
def endNode (place : Option Nat) (node : Node) (s : Assembly) : Node × Assembly :=
  match place with
  | none => (node, s)
  | some p => (node, { s with bodies := (p, node) :: s.bodies })

/-! ## Descent -/

/-- A token that ends a place in which a block may stand. -/
def endsBlockPlace : Token → Bool
  | .key | .value | .blockEnd => true
  | _ => false

mutual

/-- The node that starts here. In a block it may be a block, or a sequence that is not indented. -/
def node (fuel : Nat) (inBlock notIndented : Bool) (s : Assembly) : Node × Assembly :=
  match fuel with
  | 0 => (Node.cut, s.stop)
  | fuel + 1 =>
    match s.head with
    | .alias name =>
      match s.anchors.lookup name with
      | some number => (.alias number, s.next)
      | none => (Node.cut, s.stop)
    | _ =>
      let (anchor, tag, s) := s.takeProperties
      let resolved : Option (Option String) := match tag with
        | none => some none
        | some (handle, suffix) => (s.tagOf? handle suffix).map some
      match resolved with
      | none => (Node.cut, s.stop)
      | some tag =>
        if s.head = .malformed then (Node.cut, s.stop)
        else if notIndented && s.head = .blockEntry then
          let (place, s) := s.beginNode anchor
          let (items, s) := looseItems fuel s
          endNode place (.sequence tag items) s
        else match s.head with
          | .scalar style text =>
            let (place, s) := s.next.beginNode anchor
            endNode place (.scalar tag style text) s
          | .flowSequenceStart =>
            let (place, s) := s.next.beginNode anchor
            let (items, s) := flowItems fuel true s
            endNode place (.sequence tag items) s
          | .flowMappingStart =>
            let (place, s) := s.next.beginNode anchor
            let (entries, s) := flowEntries fuel true s
            endNode place (.mapping tag entries) s
          | .blockSequenceStart =>
            if inBlock then
              let (place, s) := s.next.beginNode anchor
              let (items, s) := blockItems fuel s
              endNode place (.sequence tag items) s
            else (Node.cut, s.stop)
          | .blockMappingStart =>
            if inBlock then
              let (place, s) := s.next.beginNode anchor
              let (entries, s) := blockEntries fuel s
              endNode place (.mapping tag entries) s
            else (Node.cut, s.stop)
          | _ =>
            if anchor.isSome || tag.isSome then
              let (place, s) := s.beginNode anchor
              endNode place (.scalar tag .plain "") s
            else (Node.cut, s.stop)

/-- The rest of a sequence in a block. -/
def blockItems (fuel : Nat) (s : Assembly) : List Node × Assembly :=
  match fuel with
  | 0 => ([.cut], s.stop)
  | fuel + 1 =>
    match s.head with
    | .blockEntry =>
      let s := s.next
      let (item, s) := match s.head with
        | .blockEntry | .blockEnd => (Node.nothing, s)
        | _ => node fuel true false s
      if s.broken then ([item], s)
      else
        let (items, s) := blockItems fuel s
        (item :: items, s)
    | .blockEnd => ([], s.next)
    | _ => ([.cut], s.stop)

/-- The rest of a sequence in a block that is not indented. -/
def looseItems (fuel : Nat) (s : Assembly) : List Node × Assembly :=
  match fuel with
  | 0 => ([.cut], s.stop)
  | fuel + 1 =>
    match s.head with
    | .blockEntry =>
      let s := s.next
      let (item, s) :=
        if s.head = .blockEntry || endsBlockPlace s.head then (Node.nothing, s)
        else node fuel true false s
      if s.broken then ([item], s)
      else
        let (items, s) := looseItems fuel s
        (item :: items, s)
    | .malformed => ([.cut], s.stop)
    | _ => ([], s)

/-- The rest of a mapping in a block. -/
def blockEntries (fuel : Nat) (s : Assembly) : List (Node × Node) × Assembly :=
  match fuel with
  | 0 => ([(.cut, .cut)], s.stop)
  | fuel + 1 =>
    match s.head with
    | .key =>
      let s := s.next
      let (key, s) := if endsBlockPlace s.head then (Node.nothing, s) else node fuel true true s
      if s.broken then ([(key, .cut)], s) else blockValue fuel key s
    | .blockEnd => ([], s.next)
    | _ => ([(.cut, .cut)], s.stop)

/-- The value of a key in a block, and the entries after it. -/
def blockValue (fuel : Nat) (key : Node) (s : Assembly) : List (Node × Node) × Assembly :=
  match fuel with
  | 0 => ([(key, .cut)], s.stop)
  | fuel + 1 =>
    let (value, s) := match s.head with
      | .value =>
        let s := s.next
        if endsBlockPlace s.head then (Node.nothing, s) else node fuel true true s
      | .malformed => (Node.cut, s.stop)
      | _ => (Node.nothing, s)
    if s.broken then ([(key, value)], s)
    else
      let (entries, s) := blockEntries fuel s
      ((key, value) :: entries, s)

/-- The rest of a sequence in brackets; the first item has no comma in front. -/
def flowItems (fuel : Nat) (first : Bool) (s : Assembly) : List Node × Assembly :=
  match fuel with
  | 0 => ([.cut], s.stop)
  | fuel + 1 =>
    match s.head with
    | .flowSequenceEnd => ([], s.next)
    | _ =>
      if !first && s.head ≠ .flowEntry then ([.cut], s.stop)
      else
        let s := if first then s else s.next
        match s.head with
        | .flowSequenceEnd => ([], s.next)
        | _ =>
          let (item, s) := match s.head with
            | .key => flowPair fuel s.next
            | _ => node fuel false false s
          if s.broken then ([item], s)
          else
            let (items, s) := flowItems fuel false s
            (item :: items, s)

/-- A mapping of one entry inside a sequence in brackets. A key that is not written takes its end
for itself. -/
def flowPair (fuel : Nat) (s : Assembly) : Node × Assembly :=
  match fuel with
  | 0 => (Node.cut, s.stop)
  | fuel + 1 =>
    let (key, s) := match s.head with
      | .malformed => (Node.cut, s.stop)
      | .value | .flowEntry | .flowSequenceEnd => (Node.nothing, s.next)
      | _ => node fuel false false s
    if s.broken then (.mapping none [(key, .cut)], s)
    else
      let (value, s) := match s.head with
        | .malformed => (Node.cut, s.stop)
        | .value =>
          let s := s.next
          match s.head with
          | .flowEntry | .flowSequenceEnd => (Node.nothing, s)
          | _ => node fuel false false s
        | _ => (Node.nothing, s)
      (.mapping none [(key, value)], s)

/-- The rest of a mapping in brackets; the first entry has no comma in front. -/
def flowEntries (fuel : Nat) (first : Bool) (s : Assembly) : List (Node × Node) × Assembly :=
  match fuel with
  | 0 => ([(.cut, .cut)], s.stop)
  | fuel + 1 =>
    match s.head with
    | .flowMappingEnd => ([], s.next)
    | _ =>
      if !first && s.head ≠ .flowEntry then ([(.cut, .cut)], s.stop)
      else
        let s := if first then s else s.next
        match s.head with
        | .flowMappingEnd => ([], s.next)
        | .key =>
          let s := s.next
          let (key, s) := match s.head with
            | .value | .flowEntry | .flowMappingEnd => (Node.nothing, s)
            | _ => node fuel false false s
          if s.broken then ([(key, .cut)], s) else flowValue fuel key s
        | _ =>
          let (key, s) := node fuel false false s
          if s.broken then ([(key, .cut)], s)
          else if s.head = .malformed then ([(key, .cut)], s.stop)
          else
            let (entries, s) := flowEntries fuel false s
            ((key, .nothing) :: entries, s)

/-- The value of a key in brackets, and the entries after it. -/
def flowValue (fuel : Nat) (key : Node) (s : Assembly) : List (Node × Node) × Assembly :=
  match fuel with
  | 0 => ([(key, .cut)], s.stop)
  | fuel + 1 =>
    let (value, s) := match s.head with
      | .malformed => (Node.cut, s.stop)
      | .value =>
        let s := s.next
        match s.head with
        | .flowEntry | .flowMappingEnd => (Node.nothing, s)
        | _ => node fuel false false s
      | _ => (Node.nothing, s)
    if s.broken then ([(key, value)], s)
    else
      let (entries, s) := flowEntries fuel false s
      ((key, value) :: entries, s)

end

/-! ## Documents -/

/-- The handles that the directives in front of a document declare, and the tokens after them. A
version that is not known and a second statement of the same thing are errors. -/
def takeDirectives : List Token → Bool → List (String × String) →
    Option (List (String × String) × List Token)
  | .version major minor :: r, versioned, handles =>
    if versioned || major ≠ 1 || (minor ≠ 1 && minor ≠ 2) then none
    else takeDirectives r true handles
  | .tagHandle handle start :: r, versioned, handles =>
    if (handles.lookup handle).isSome then none
    else takeDirectives r versioned ((handle, start) :: handles)
  | r, _, handles => some (handles, r)

/-- The state in front of the root of a document. -/
def start (handles : List (String × String)) (tokens : List Token) : Assembly :=
  { tokens, handles := handles ++ usualHandles, anchors := [], given := [], bodies := [],
    broken := false }

/-- The nodes that were given numbers, for the last start of each number. -/
def namedNodes (s : Assembly) : List (Nat × Node) :=
  s.given.map fun (number, place) => (number, (s.bodies.lookup place).getD .cut)

/-- The document with its root, and the tokens after its end. -/
def close (root : Node) (s : Assembly) : Document × List Token :=
  let rest := s.tokens.dropWhile (· = .documentEnd)
  (⟨some root, s.namedNodes, rest = [.streamEnd]⟩, rest)

/-- The document of a text that is not announced, or after it was announced. -/
def content (announced : Bool) (s : Assembly) : Document × List Token :=
  let empty := match s.head with
    | .version .. | .tagHandle .. | .documentStart | .documentEnd | .streamEnd => announced
    | _ => false
  if empty then s.close .nothing
  else
    let (root, s) := node (4 * s.tokens.length + 8) true false s
    s.close root

/-- The document that could not be read. -/
def unreadable : Document × List Token := (⟨some .cut, [], false⟩, [])

/-- A document that is announced, and the tokens after its end. -/
def announced (tokens : List Token) : Document × List Token :=
  match takeDirectives tokens false [] with
  | some (handles, .documentStart :: r) => (start handles r).content true
  | _ => unreadable

/-- A token that announces a document. -/
def announces : Token → Bool
  | .version .. | .tagHandle .. | .documentStart => true
  | _ => false

/-- The first document of some tokens, which need not be announced, and the tokens after its end.
Where there are no other tokens nothing is written. -/
def first (tokens : List Token) : Document × List Token :=
  match tokens with
  | .streamEnd :: _ => (⟨none, [], true⟩, tokens)
  | t :: _ => if announces t then announced tokens else (start [] tokens).content false
  | [] => unreadable

/-- The documents after the first one, at most so many. -/
def others : Nat → List Token → List Document
  | 0, _ => [unreadable.1]
  | fuel + 1, tokens =>
    if tokens = [.streamEnd] then []
    else
      let (document, rest) := announced tokens
      document :: others fuel rest

end Assembly

/-- The tokens of a text, if all its characters are allowed. -/
def readTokens (s : String) : List Token := ((readable? s).map tokenize).getD []

/-- The document of a text that holds no other one. -/
def Document.ofText (s : String) : Document := (Assembly.first (readTokens s)).1

/-- All documents of a text. -/
def Document.listOfText (s : String) : List Document :=
  let (document, rest) := Assembly.first (readTokens s)
  document :: Assembly.others (rest.length + 1) rest

end FaultInjection.Yaml
