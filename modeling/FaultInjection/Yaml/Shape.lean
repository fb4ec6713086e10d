import FaultInjection.Yaml.Content

/-!
# Shapes of documents

A shape says what is expected where. A record has entries by name, and entries with other names are
of no concern. A document has a shape in one of two senses: by its nodes, where the text of any
scalar is a text, or by its content, where a text must not stand for anything else. In both the
content is what is left of it.
-/

namespace FaultInjection.Yaml

/-- A shape. -/
inductive Shape where
  /-- Anything whose keys are texts. -/
  | data
  | text
  | flag
  /-- One of some words. -/
  | word (choices : List String)
  | list (item : Shape)
  | table (value : Shape)
  /-- It may be missing or null. -/
  | optional (inner : Shape)
  /-- It may be missing. -/
  | omissible (inner : Shape)
  | record (entries : List (String × Shape))

/-- Something of a shape may be missing. -/
def Shape.mayMiss : Shape → Bool
  | optional _ | omissible _ => true
  | _ => false

/-- The names of some entries are right: none occurs twice, and none is missing that must be there.
-/
def Shape.admitsNames (entries : List (String × Shape)) (names : List String) : Bool :=
  entries.all fun e =>
    let n := names.count e.1
    n ≤ 1 && (e.2.mayMiss || n = 1)

/-- A table of entries with names. -/
def Content.ofEntries (entries : List (String × Content)) : Content :=
  .table (entries.map fun e => (.atom (.text e.1), e.2))

/-! ## By nodes -/

namespace Document

/-- Nothing or null is written. A tag can demand that it is null. -/
def readAbsent : Node → Except DecodeError Bool
  | .scalar none .plain text => .ok (text = "" || isNull text)
  | .scalar (some tag) .plain text =>
    if tag = coreTag "null" then
      if isNull text then .ok true else .error (Mistagged.error ⟨text, "null"⟩)
    else .ok false
  | _ => .ok false

/-- A node that is anything whose keys are texts. -/
def readData (document : Document) : Nat → Node → Reading Content
  | depth, node => do
    match ← document.follow node, depth with
    | .scalar tag style text, _ => return .atom (← bufferScalar "any data" tag style text)
    | .sequence tag items, depth + 1 =>
      if isLocalTag tag then throw .malformed
      else return .list (← items.mapM (document.readData depth))
    | .mapping tag entries, depth + 1 =>
      if isLocalTag tag then throw .malformed
      else return .ofEntries (← entries.mapM fun (k, v) => do
        let key ← document.readText "a text" k
        return (key, ← document.readData depth v))
    | _, _ => throw .malformed

/-- The word of a scalar. A tag of its document can name it in front of nothing. -/
def wordOf? (tag : Option String) (style : Style) (text : String) : Option String :=
  match localTag? tag with
  | none => some text
  | some name => if style = .plain && (text = "" || isNull text) then some name else none

/-- A node that is one of some words. -/
def readWord (document : Document) (choices : List String) (node : Node) : Reading Content := do
  match ← document.follow node with
  | .scalar tag style text =>
    match (wordOf? tag style text).filter choices.contains with
    | some word => return .atom (.text word)
    | none => throw .malformed
  | _ => throw .malformed

end Document

namespace Shape

mutual

/-- What is left of a node of a shape, in which collections are nested no deeper than a limit. -/
def read (document : Document) : Shape → Nat → Node → Reading Content
  | .data, depth, node => document.readData depth node
  | .text, _, node => return .atom (.text (← document.readText "a text" node))
  | .flag, _, node => do
    let readFlag (s : List Char) := readBool (String.ofList s)
    return .atom (.bool (← document.readSpelling "bool" "a flag" readFlag node))
  | .word choices, _, node => document.readWord choices node
  | .list item, depth, node => do
    let items ← document.readItems "a list" node
    if depth = 0 then throw .malformed
    return .list (← items.mapM (item.read document (depth - 1)))
  | .table value, depth, node => do
    let entries ← document.readEntries "a table" node
    if depth = 0 then throw .malformed
    return .ofEntries (← entries.mapM fun (k, v) => do
      let key ← document.readText "a text" k
      return (key, ← value.read document (depth - 1) v))
  | .optional inner, depth, node => do
    let node ← document.follow node
    if ← Document.readAbsent node then return .atom .null else inner.read document depth node
  | .omissible inner, depth, node => inner.read document depth node
  | .record fields, depth, node => do
    let entries ← document.readEntries "a record" node
    if depth = 0 then throw .malformed
    let found ← entries.filterMapM fun (k, v) => do
      let name ← document.readText "a name" k
      return (← readField document fields (depth - 1) name v).map (name, ·)
    if admitsNames fields (found.map (·.1)) then return .ofEntries found else throw .malformed

/-- What is left of the value of a name, unless no field has this name. -/
def readField (document : Document) :
    List (String × Shape) → Nat → String → Node → Reading (Option Content)
  | [], _, _, node => do
    Document.ignore node
    return none
  | (name, shape) :: r, depth, found, node =>
    if name = found then return some (← shape.read document depth node)
    else readField document r depth found node

end

end Shape

/-- What is left of a document of a shape. Where nothing is written it is an empty record. -/
def Document.fit? (document : Document) (shape : Shape) : Option Content :=
  let root := document.root.getD .nothing
  (document.read (shape.read document Document.depthLimit root)).toOption

/-! ## By contents -/

namespace Content

/-- The items of a list; null is a list without items. -/
def listed? (c : Content) : Option (List Content) :=
  match c.bare with
  | .list items => some items
  | .atom .null => some []
  | _ => none

/-- The entries of a table whose keys are texts; null is a table without entries. -/
def named? (c : Content) : Option (List (String × Content)) :=
  match c.bare with
  | .table entries => entries.mapM fun e => e.1.bare.text?.map (·, e.2)
  | .atom .null => some []
  | _ => none

mutual

/-- A content without tags whose keys are texts. -/
def isData : Content → Bool
  | .atom _ => true
  | .list items => allData items
  | .table entries => entriesData entries
  | .tagged .. => false

/-- All contents of a list are such. -/
def allData : List Content → Bool
  | [] => true
  | c :: r => isData c && allData r

/-- All entries of a list are such. -/
def entriesData : List (Content × Content) → Bool
  | [] => true
  | (k, v) :: r => k.bare.text?.isSome && isData v && entriesData r

end

end Content

namespace Shape

mutual

/-- What is left of a content of a shape. -/
def convert? : Shape → Content → Option Content
  | .data, c => if c.isData then some c else none
  | .text, c => (c.bare.text?).map fun s => .atom (.text s)
  | .flag, c => match c.bare with
    | .atom (.bool b) => some (.atom (.bool b))
    | _ => none
  | .word choices, c =>
    let word := match c with
      | .tagged name (.atom .null) => some name
      | c => c.text?
    (word.filter choices.contains).map fun s => .atom (.text s)
  | .list item, c => do return .list (← (← c.listed?).mapM item.convert?)
  | .table value, c => do
    return .ofEntries (← (← c.named?).mapM fun e => (value.convert? e.2).map (e.1, ·))
  | .optional inner, c => match c with
    | .atom .null => some (.atom .null)
    | c => inner.convert? c
  | .omissible inner, c => inner.convert? c
  | .record fields, c => do
    let entries ← c.named?
    let found ← entries.filterMapM fun e =>
      (convertField fields e.1 e.2).map fun value => value.map (e.1, ·)
    if admitsNames fields (found.map (·.1)) then return .ofEntries found else none

/-- What is left of the value of a name, or nothing if no field has this name. -/
def convertField : List (String × Shape) → String → Content → Option (Option Content)
  | [], _, _ => some none
  | (name, shape) :: r, found, c =>
    if name = found then (shape.convert? c).map some else convertField r found c

end

end Shape

end FaultInjection.Yaml
