import FaultInjection.Json.Value
import FaultInjection.Number.Bounded
import FaultInjection.Text.Timestamp

/-!
# Shapes of JSON values

A shape says which values are expected where. Members of a record may be absent or null, and further
members are of no concern, sound or not.
-/

namespace FaultInjection.Json

open Number

/-- A shape of values. -/
inductive Shape where
  /-- Anything that is sound. -/
  | any
  | text
  | flag
  | whole (range : IntegerRange)
  /-- A text that names a time. -/
  | time
  /-- A whole number of a range or a text. -/
  | wholeOrText (range : IntegerRange)
  /-- This text, which must not be null. -/
  | word (text : String)
  | list (item : Shape)
  | table (value : Shape)
  | record (members : List (String × Shape))

/-- Null stands for an absent member, except where a text is fixed. -/
def Shape.mayBeNull : Shape → Bool
  | .word _ => false
  | _ => true

mutual

/-- A value has a shape, in which arrays and objects are nested no deeper than a limit. -/
def Shape.admits : Shape → Nat → Json → Bool
  | .any, depth, v => v.isSound depth
  | .text, _, .str _ => true
  | .flag, _, .bool _ => true
  | .whole range, _, .int n => decide (range.Contains n)
  | .time, _, .str s => Text.isTimestamp s
  | .wholeOrText range, _, .int n => decide (range.Contains n)
  | .wholeOrText _, _, .str _ => true
  | .word text, _, .str s => s = text
  | .list item, depth + 1, .arr items => items.all (item.admits depth)
  | .table value, depth + 1, .obj members => members.all fun m => value.admits depth m.2
  | .record shapes, depth + 1, .obj members => admitsMembers shapes depth members
  | _, _, _ => false
termination_by structural shape => shape

/-- Every member that has a shape has it, or is null. -/
def admitsMembers : List (String × Shape) → Nat → List (String × Json) → Bool
  | [], _, _ => true
  | shape :: shapes, depth, members =>
    admitsMember shape depth members && admitsMembers shapes depth members
termination_by structural shapes => shapes

/-- The members of a name have its shape, or are null where that is allowed. -/
def admitsMember : String × Shape → Nat → List (String × Json) → Bool
  | (name, shape), depth, members => members.all fun m =>
    m.1 != name || (shape.mayBeNull && m.2 matches .null) || shape.admits depth m.2
termination_by structural shape => shape

end

/-- A whole value has a shape. -/
def Shape.fits (shape : Shape) (value : Json) : Bool := shape.admits depthLimit value

end FaultInjection.Json
