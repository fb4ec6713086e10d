import FaultInjection.Yaml.Atom
import FaultInjection.Yaml.Node

/-!
# Reading values from documents

A document is read as values of known types. The first thing in the order of the document that does
not have its type is reported; reaching a cut is an error of its own, and so is following more
aliases than a document of its size may have.
-/

namespace FaultInjection.Yaml

open Number

/-! ## Errors -/

/-- Why a document does not hold what it should. -/
inductive DecodeError where
  /-- The text is no YAML, or is not for this reader. -/
  | malformed
  | missingField (name : String)
  | duplicateField (name : String)
  | unknownVariant (found : String) (expected : String)
  | invalidType (found expected : String)
  | invalidValue (found expected : String)
deriving DecidableEq, Repr

/-- The error in words. -/
def DecodeError.message : DecodeError → String
  | .malformed => "yaml error"
  | .missingField name => "missing field `" ++ name ++ "`"
  | .duplicateField name => "duplicate field `" ++ name ++ "`"
  | .unknownVariant found expected =>
    "unknown variant `" ++ found ++ "`, expected " ++ expected
  | .invalidType found expected => "invalid type: " ++ found ++ ", expected " ++ expected
  | .invalidValue found expected => "invalid value: " ++ found ++ ", expected " ++ expected

/-- The error of a scalar whose tag demands another kind. -/
def Mistagged.error (m : Mistagged) : DecodeError :=
  .invalidValue (Atom.text m.text).shown m.kind

/-! ## Readings -/

/-- Reading from a document, of which some aliases may still be followed. -/
abbrev Reading (α : Type) : Type := StateT Nat (Except DecodeError) α

namespace Document

mutual

/-- The text goes wrong inside a node. -/
def hasCut : Node → Bool
  | .cut => true
  | .scalar .. | .alias _ => false
  | .sequence _ items => anyCut items
  | .mapping _ entries => anyEntryCut entries

/-- The text goes wrong inside a node of a list. -/
def anyCut : List Node → Bool
  | [] => false
  | n :: r => hasCut n || anyCut r

/-- The text goes wrong inside an entry of a list. -/
def anyEntryCut : List (Node × Node) → Bool
  | [] => false
  | (k, v) :: r => hasCut k || hasCut v || anyEntryCut r

end

mutual

/-- How many pieces a node consists of: its scalars and aliases, and the beginnings and the ends of
its collections. -/
def pieces : Node → Nat
  | .cut => 0
  | .scalar .. | .alias _ => 1
  | .sequence _ items => itemPieces items + (if anyCut items then 1 else 2)
  | .mapping _ entries => entryPieces entries + (if anyEntryCut entries then 1 else 2)

/-- How many pieces the nodes of a list consist of. -/
def itemPieces : List Node → Nat
  | [] => 0
  | n :: r => pieces n + itemPieces r

/-- How many pieces the entries of a list consist of. -/
def entryPieces : List (Node × Node) → Nat
  | [] => 0
  | (k, v) :: r => pieces k + pieces v + entryPieces r

end

/-- How many aliases may be followed in a document: a hundred for each of its pieces. -/
def aliasLimit (document : Document) : Nat :=
  match document.root with
  | none => 0
  | some root => 100 * pieces root

/-- What is read from a document. -/
def read {α : Type} (document : Document) (reading : Reading α) : Except DecodeError α :=
  (reading.run document.aliasLimit).map (·.1)

/-- The node that a node stands for. -/
def follow (document : Document) : Node → Reading Node
  | .alias number => do
    match ← get with
    | 0 => throw .malformed
    | left + 1 =>
      set left
      return (document.named.lookup number).getD .cut
  | node => return node

/-! ## Typed nodes -/

/-- The error of a node of another type than expected. -/
def typeError (expected : String) : Node → DecodeError
  | .scalar tag style text =>
    match atomOfScalar tag style text with
    | .ok a => .invalidType a.shown expected
    | .error m => m.error
  | .sequence .. => .invalidType "sequence" expected
  | .mapping .. => .invalidType "map" expected
  | .alias _ | .cut => .malformed

/-- The text of a scalar, whatever it stands for. -/
def readText (document : Document) (expected : String) (node : Node) : Reading String := do
  match ← document.follow node with
  | .scalar _ _ text => return text
  | other => throw (typeError expected other)

/-- A scalar whose text may spell a value of a kind that is not text. -/
def spells (kind : String) (tag : Option String) (style : Style) : Bool :=
  style = .plain || (style = .literal && tag = some (coreTag kind))

/-- The value that the text of a scalar spells. -/
def readSpelling {α : Type} (document : Document) (kind expected : String)
    (read : List Char → Option α) (node : Node) : Reading α := do
  match ← document.follow node with
  | .scalar tag style text =>
    match (if spells kind tag style then read text.toList else none) with
    | some a => return a
    | none => throw (typeError expected (.scalar tag style text))
  | other => throw (typeError expected other)

/-- The whole number of a scalar. -/
def readNumber (document : Document) (expected : String) (read : List Char → Option Int)
    (node : Node) : Reading Int :=
  document.readSpelling "int" expected read node

/-- Nothing at all is written. -/
def isNothing : Node → Bool
  | .scalar _ .plain "" => true
  | _ => false

/-- The items of a sequence. Nothing at all is a sequence without items. -/
def readItems (document : Document) (expected : String) (node : Node) : Reading (List Node) := do
  match ← document.follow node with
  | .sequence _ items => return items
  | other => if isNothing other then return [] else throw (typeError expected other)

/-- The entries of a mapping. Nothing at all is a mapping without entries. -/
def readEntries (document : Document) (expected : String) (node : Node) :
    Reading (List (Node × Node)) := do
  match ← document.follow node with
  | .mapping _ entries => return entries
  | other => if isNothing other then return [] else throw (typeError expected other)

/-- A node that is of no concern, which must nevertheless be complete. -/
def ignore (node : Node) : Reading Unit :=
  if hasCut node then throw .malformed else pure ()

end Document

/-! ## Buffered nodes -/

/-- A node whose scalars have been read for what they stand for. -/
inductive Content where
  | atom (a : Atom)
  | list (items : List Content)
  | table (entries : List (Content × Content))
  /-- A content with a tag that only its document knows. -/
  | tagged (tag : String) (inner : Content)

instance : Inhabited Content := ⟨.atom .null⟩

/-- A content as a message shows it. -/
def Content.shown : Content → String
  | .atom a => a.shown
  | .list _ => "sequence"
  | .table _ => "map"
  | .tagged .. => "enum"

/-- An atom that fits into a content: a whole number must not be too wide. -/
def Atom.checked (expected : String) (a : Atom) : Except DecodeError Atom :=
  match a with
  | .whole n => if isWide n then .error (.invalidType a.shown expected) else .ok a
  | a => .ok a

namespace Document

/-- The content of a scalar without a tag of its document. -/
def bufferScalar (expected : String) (tag : Option String) (style : Style) (text : String) :
    Except DecodeError Atom :=
  if isLocalTag tag then .error .malformed
  else match atomOfScalar tag style text with
    | .error m => .error m.error
    | .ok a => a.checked expected

/-- The content of a node without tags of its document, in which collections are nested no deeper
than a limit. -/
def buffer (document : Document) : Nat → Node → Reading Content
  | depth, node => do
    match ← document.follow node, depth with
    | .scalar tag style text, _ => return .atom (← bufferScalar "any value" tag style text)
    | .sequence tag items, depth + 1 =>
      if isLocalTag tag then throw .malformed
      else return .list (← items.mapM (document.buffer depth))
    | .mapping tag entries, depth + 1 =>
      if isLocalTag tag then throw .malformed
      else return .table (← entries.mapM fun (k, v) => do
        let key ← document.buffer depth k
        return (key, ← document.buffer depth v))
    | _, _ => throw .malformed

end Document

/-! ## Typed contents -/

namespace Content

/-- The whole number of a range. -/
def readWhole (expected : String) (range : IntegerRange) : Content → Except DecodeError Int
  | .atom (.whole n) =>
    if range.Contains n then .ok n else .error (.invalidValue (Atom.whole n).shown expected)
  | other => .error (.invalidType other.shown expected)

/-- The floating-point number; a whole number is one too. -/
def readReal : Content → Except DecodeError Binary64
  | .atom (.whole n) => .ok (.ofInt n)
  | .atom (.real x) => .ok x
  | other => .error (.invalidType other.shown "f64")

/-- The text, which must not stand for anything else. -/
def readText : Content → Except DecodeError String
  | .atom (.text s) => .ok s
  | other => .error (.invalidType other.shown "a string")

/-- The texts of a list. -/
def readTexts : Content → Except DecodeError (List String)
  | .list items => items.mapM readText
  | other => .error (.invalidType other.shown "a sequence")

end Content

end FaultInjection.Yaml
