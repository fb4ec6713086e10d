import FaultInjection.Failure
import FaultInjection.Number.Bounded

/-!
# Cluster versions

A cluster states its version as two texts, which start with digits and may go on with anything.
Containers can be added to running pods from version 1.23 on.
-/

namespace FaultInjection.Kube

open Number

/-- The number at the start of a text, if it has one of thirty-two bits. -/
def leadingNumber (s : String) : Option Nat :=
  match readInteger 10 (.unsigned 32) (s.toList.takeWhile isDigit) with
  | .ok n => some n.toNat
  | .error _ => none

/-- The version in one text. -/
def versionText (major minor : String) : String := "v" ++ major ++ "." ++ minor

/-- A version that is recent enough. -/
def isSupported (major minor : String) : Bool :=
  match leadingNumber major, leadingNumber minor with
  | some m, some n => 1 < m || (m == 1 && 23 ≤ n)
  | _, _ => false

/-- Refuses a version that is too old or unreadable. -/
def checkVersion (major minor : String) : Except Failure Unit :=
  if isSupported major minor then .ok () else .error (.version (versionText major minor))

end FaultInjection.Kube
