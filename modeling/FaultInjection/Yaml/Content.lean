import FaultInjection.Yaml.Decode

/-!
# Contents of documents

The content of a whole document is what all its scalars stand for, with the tags that only this
document knows. No key of a table occurs twice.
-/

namespace FaultInjection.Yaml

/-! ## Equal contents -/

/-- Two atoms that are equal. The two zeros are, and so are numbers that are none. -/
def Atom.same : Atom → Atom → Bool
  | .real (.finite _ 0 _), .real (.finite _ 0 _) => true
  | a, b => a = b

namespace Content

mutual

/-- Two contents that are equal. The order of a table does not matter. -/
def same : Content → Content → Bool
  | .atom a, .atom b => a.same b
  | .list a, .list b => sameItems a b
  | .table a, .table b => a.length = b.length && sameEntries a b
  | .tagged s a, .tagged t b => s = t && same a b
  | _, _ => false

/-- Two lists of contents that are equal in order. -/
def sameItems : List Content → List Content → Bool
  | [], [] => true
  | a :: r, b :: t => same a b && sameItems r t
  | _, _ => false

/-- Some entries that are all among others. -/
def sameEntries : List (Content × Content) → List (Content × Content) → Bool
  | [], _ => true
  | (k, v) :: r, entries =>
    (entries.any fun e => same k e.1 && same v e.2) && sameEntries r entries

end

/-- No key occurs twice. -/
def distinctKeys : List (Content × Content) → Bool
  | [] => true
  | (k, _) :: r => r.all (fun e => !same k e.1) && distinctKeys r

/-- A content without the tags in front of it. -/
def bare : Content → Content
  | .tagged _ inner => inner.bare
  | c => c

/-- The text that a content stands for. -/
def text? : Content → Option String
  | .atom (.text s) => some s
  | _ => none

/-- The items of a list, and nothing of any other content. -/
def items : Content → List Content
  | .list items => items
  | _ => []

/-- The value of the first entry of a name that is not null. -/
def entry? (c : Content) (name : String) : Option Content :=
  match c with
  | .table entries =>
    ((entries.find? fun e => e.1.text? = some name).map (·.2)).bind fun
      | .atom .null => none
      | value => some value
  | _ => none

/-- The text of an entry. -/
def entryText? (c : Content) (name : String) : Option String := (c.entry? name).bind text?

end Content

/-! ## Reading contents -/

/-- The name of a tag that only its document knows. -/
def localTag? (tag : Option String) : Option String :=
  match (tag.getD "").toList with
  | '!' :: name => some (String.ofList name)
  | _ => none

/-- A content with a tag. A tag of its document must have a name; any other one says nothing
more. -/
def Content.withTag (tag : Option String) (c : Content) : Except DecodeError Content :=
  match localTag? tag with
  | none => .ok c
  | some "" => .error .malformed
  | some name => .ok (.tagged name c)

/-- The content of a scalar. -/
def Content.ofScalar (tag : Option String) (style : Style) (text : String) :
    Except DecodeError Content := do
  let a ← (atomOfScalar tag style text).mapError Mistagged.error
  withTag tag (.atom (← a.checked "any value"))

namespace Document

/-- The content of a node, in which collections are nested no deeper than a limit. -/
def readContent (document : Document) : Nat → Node → Reading Content
  | depth, node => do
    match ← document.follow node, depth with
    | .scalar tag style text, _ => Content.ofScalar tag style text
    | .sequence tag items, depth + 1 =>
      Content.withTag tag (.list (← items.mapM (document.readContent depth)))
    | .mapping tag entries, depth + 1 =>
      let entries ← entries.mapM fun (k, v) => do
        let key ← document.readContent depth k
        return (key, ← document.readContent depth v)
      if Content.distinctKeys entries then Content.withTag tag (.table entries)
      else throw .malformed
    | _, _ => throw .malformed

/-- How deep the collections of a document may be nested. -/
def depthLimit : Nat := 128

/-- The content of a document. Where nothing is written it is null. -/
def content? (document : Document) : Option Content :=
  match document.root with
  | none => some (.atom .null)
  | some root => (document.read (document.readContent depthLimit root)).toOption

end Document

end FaultInjection.Yaml
