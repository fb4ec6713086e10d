import FaultInjection.Text.Keyed
import FaultInjection.Text.Pieces

/-!
# Labels

The labels of a pod: values by key, in ascending order of the keys. Written as a text, labels are
pairs of key and value with an equals sign between them, separated by commas.
-/

namespace FaultInjection

open Text

/-- Values by key. -/
structure Labels where
  /-- The pairs of key and value. -/
  pairs : List (String × String)
  /-- Each key is before the keys that follow it. -/
  ascending : Keyed.Ascending pairs

namespace Labels

deriving instance DecidableEq for Labels

/-- No labels. -/
def empty : Labels := ⟨[], Keyed.ascending_nil⟩

instance : Inhabited Labels := ⟨empty⟩

/-- The value of a key. -/
def get? (labels : Labels) (key : String) : Option String := Keyed.get? key labels.pairs

/-- The labels with a value for a key, in place of the one that the key had. -/
def insert (labels : Labels) (key value : String) : Labels :=
  ⟨Keyed.insert key value labels.pairs, labels.ascending.insert key value⟩

/-- The labels of a list of pairs; the last value of a key counts. -/
def ofList (pairs : List (String × String)) : Labels :=
  ⟨Keyed.ofList pairs, Keyed.ascending_ofList pairs⟩

/-- No label at all. -/
def isEmpty (labels : Labels) : Bool := labels.pairs.isEmpty

/-- A pair of the labels. -/
def has (labels : Labels) (pair : String × String) : Bool := labels.get? pair.1 == some pair.2

/-! ## Labels as a text -/

/-- One pair as a text. -/
def pairText (pair : String × String) : String := pair.1 ++ "=" ++ pair.2

/-- All pairs as one text. -/
def text (labels : Labels) : String := withCommas (labels.pairs.map pairText)

/-- The key and the value of a piece: the trimmed texts on both sides of its first equals sign, the
first of them not blank. -/
def readPair (piece : List Char) : Option (String × String) :=
  match cutAt '=' piece with
  | none => none
  | some (key, value) =>
    if trim key = [] then none
    else some (String.ofList (trim key), String.ofList (trim value))

/-- The labels of the pieces after those read so far; the first piece that is no pair is refused. -/
def readPieces : Labels → List (List Char) → Except String Labels
  | labels, [] => .ok labels
  | labels, p :: ps =>
    match readPair p with
    | none => .error (String.ofList p)
    | some (key, value) => readPieces (labels.insert key value) ps

/-- The labels that a text spells, or the first of its pieces that is no pair. -/
def read (s : String) : Except String Labels := readPieces empty (pieces s.toList)

end Labels

end FaultInjection
