import FaultInjection.Failure
import FaultInjection.Labels

/-!
# Selection of pods

A pod is selected by the labels that it carries. A selector also names the namespace in which pods
are looked for, and must not be empty altogether.
-/

namespace FaultInjection

/-! ## Filters -/

/-- The labels that a pod must have and those that it must not have. -/
structure Filter where
  /-- The pairs that a pod must carry. -/
  select : Labels
  /-- The pairs that a pod must not carry. -/
  exclude : Labels
deriving DecidableEq

namespace Filter

/-- A pod with these labels passes. -/
def passes (f : Filter) (labels : Labels) : Bool :=
  f.select.pairs.all labels.has && !f.exclude.pairs.any labels.has

/-- The text that asks the cluster for the pods with the labels to select, if there are any. -/
def labelSelector? (f : Filter) : Option String :=
  if f.select.isEmpty then none else some f.select.text

end Filter

/-! ## Selectors -/

/-- Which pods are to be disturbed. -/
structure Selector where
  /-- The namespace of the pods; the empty name stands for the default one. -/
  scope : String
  /-- The labels that a pod must carry. -/
  select : Labels
  /-- The labels that a pod must not carry. -/
  exclude : Labels
deriving DecidableEq

namespace Selector

/-- The namespace that an empty name stands for. -/
def defaultScope : String := "default"

/-- The namespace in which pods are looked for. -/
def scopeOrDefault (s : Selector) : String := if s.scope = "" then defaultScope else s.scope

/-- The filter for the pods of the namespace. -/
def filter (s : Selector) : Filter := ⟨s.select, s.exclude⟩

/-- Nothing is asked of a pod, not even a namespace. -/
def isUnrestricted (s : Selector) : Bool :=
  s.scope = "" && s.select.isEmpty && s.exclude.isEmpty

/-- A selector must ask for something. -/
def validate (s : Selector) : Except Failure Unit :=
  if s.isUnrestricted then
    .error (.selector
      "namespace, select and exclude attributes in pod selector cannot all be empty")
  else .ok ()

end Selector

end FaultInjection
