import FaultInjection.Number.Binary64
import FaultInjection.Text.Keyed

/-!
# JSON values

A value of the JSON data format. Whole numbers of sixty-four bits are kept exactly, other numbers as
floating-point numbers; the members of an object stay in the order in which they were written. What
is spelt well need not stand for anything: a number can be too large, and a string can hold what is
no text. A value is sound if nothing of this kind is in it.
-/

namespace FaultInjection

/-- A JSON value. -/
inductive Json where
  | null
  | bool (b : Bool)
  | int (n : Int)
  | float (x : Number.Binary64)
  | str (s : String)
  | arr (items : List Json)
  | obj (members : List (String × Json))
  /-- A string that is no text, or an object with such a name. -/
  | garbled

namespace Json

instance : Inhabited Json := ⟨null⟩

/-- The members of an object, and nothing of any other value. -/
def members : Json → List (String × Json)
  | obj members => members
  | _ => []

/-- The items of an array, and nothing of any other value. -/
def items : Json → List Json
  | arr items => items
  | _ => []

/-- The last member of a name that is not null. -/
def get? (value : Json) (name : String) : Option Json :=
  match value.members.reverse.find? (·.1 = name) with
  | none | some (_, null) => none
  | some (_, v) => some v

/-- The text of a string. -/
def text? : Json → Option String
  | str s => some s
  | _ => none

/-- The number of a whole number. -/
def int? : Json → Option Int
  | int n => some n
  | _ => none

/-- The member of a name, or null. -/
def member (value : Json) (name : String) : Json := (value.get? name).getD null

/-- The text of the member of a name. -/
def textAt? (value : Json) (name : String) : Option String := (value.get? name).bind text?

/-- How often a name occurs among the members. -/
def occurrences (value : Json) (name : String) : Nat := value.members.countP (·.1 = name)

/-- The object with these members, less those that have no value. -/
def ofMembers (members : List (String × Option Json)) : Json :=
  obj (members.filterMap fun m => m.2.map (m.1, ·))

mutual

/-- A value stands for something, and its arrays and objects are nested no deeper than a limit. -/
def isSound (depth : Nat) : Json → Bool
  | null | bool _ | int _ | str _ => true
  | float x => x.isFinite
  | arr items => depth != 0 && allSound (depth - 1) items
  | obj members => depth != 0 && membersSound (depth - 1) members
  | garbled => false

/-- All items of a list are sound. -/
def allSound (depth : Nat) : List Json → Bool
  | [] => true
  | v :: r => isSound depth v && allSound depth r

/-- All members of a list are sound. -/
def membersSound (depth : Nat) : List (String × Json) → Bool
  | [] => true
  | (_, v) :: r => isSound depth v && membersSound depth r

end

/-- How deep arrays and objects may be nested. -/
def depthLimit : Nat := 127

/-- The array of some texts. -/
def ofStrings (texts : List String) : Json := arr (texts.map str)

end Json

end FaultInjection
