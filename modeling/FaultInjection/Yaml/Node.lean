import FaultInjection.Yaml.Token

/-!
# Documents of YAML

A document is a tree of scalars, sequences and mappings. A node can be named by an anchor, and an
alias stands for the node that had a name last. Where the text goes wrong the tree ends in a cut;
what comes before it is there.
-/

namespace FaultInjection.Yaml

/-- A node of a document. -/
inductive Node where
  | scalar (tag : Option String) (style : Style) (text : String)
  | sequence (tag : Option String) (items : List Node)
  | mapping (tag : Option String) (entries : List (Node × Node))
  /-- The node that was given a number. -/
  | alias (number : Nat)
  /-- From here on the text is no YAML. -/
  | cut

instance : Inhabited Node := ⟨.cut⟩

/-- The scalar that stands where nothing is written. -/
def Node.nothing : Node := .scalar none .plain ""

/-- What is written in a text. -/
structure Document where
  /-- The root, unless nothing is written at all. -/
  root : Option Node
  /-- The nodes that were given a number; of several with one number the first counts. -/
  named : List (Nat × Node)
  /-- Nothing but the end of the text comes after the root. -/
  complete : Bool

end FaultInjection.Yaml
