import FaultInjection.Settings
import FaultInjection.Text.Pieces

/-!
# File trees

Files in memory, by the parts of their names. A path is followed part by part from the directory
that holds them; that directory and those around it have no names that a path could use.
-/

namespace FaultInjection

open Text

/-- Some files. The directories are those that their names speak of. -/
structure FileTree where
  /-- The parts of a name, and the octets. -/
  entries : List (List String × List UInt8)

namespace FileTree

/-- Where a path has come to: a place in the tree, or somewhere outside of it. -/
abbrev Place := Option (List String)

/-- The octets of the file at a place. -/
def file? (tree : FileTree) : Place → Option (List UInt8)
  | some parts => tree.entries.lookup parts
  | none => none

/-- There is something at a place. -/
def holds (tree : FileTree) (parts : List String) : Bool :=
  tree.entries.any fun e => parts.isPrefixOf e.1

/-- The parts that stay where they are. -/
def isStill (part : String) : Bool := part = "" || part = "."

/-- The parts of a text that lead somewhere. -/
def partsOf (name : String) : List String :=
  ((splitAt '/' name.toList).map String.ofList).filter (!isStill ·)

/-- The files with these names. -/
def ofList (files : List (String × List UInt8)) : FileTree :=
  ⟨files.map fun f => (partsOf f.1, f.2)⟩

/-- How many octets a part may have. -/
def partLimit : Nat := 255

/-- How many octets a path may have. -/
def pathLimit : Nat := 4095

/-- One part of a path is followed. -/
def step (tree : FileTree) (place : Place) (part : String) : Except FileFault Place :=
  if (tree.file? place).isSome then .error .notDirectory
  else if isStill part then .ok place
  else if part = ".." then
    match place with
    | some [] | none => .ok none
    | some parts => .ok (some parts.dropLast)
  else if partLimit < part.utf8ByteSize then .error .nameTooLong
  else
    match place with
    | some parts =>
      if tree.holds (parts ++ [part]) then .ok (some (parts ++ [part])) else .error .missing
    | none => .error .missing

/-- The place that a path leads to. -/
def follow (tree : FileTree) (path : String) : Except FileFault Place :=
  let start : Place := if path.toList.head? = some '/' then none else some []
  ((splitAt '/' path.toList).map String.ofList).foldlM tree.step start

/-- The octets of the file that a path leads to. -/
def read (tree : FileTree) (path : String) : Except FileFault (List UInt8) :=
  if path.toList.contains '\x00' then .error .noPath
  else if path = "" then .error .missing
  else if pathLimit < path.utf8ByteSize then .error .nameTooLong
  else
    match tree.follow path with
    | .error fault => .error fault
    | .ok place =>
      match tree.file? place with
      | some octets => .ok octets
      | none => .error .directory

end FileTree

end FaultInjection
