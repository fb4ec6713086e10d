import FaultInjection.Duration
import FaultInjection.Number.Shortest
import FaultInjection.Text.Pieces

/-!
# Faults

A fault delays the requests that a pod serves and answers a share of them with an error. It is
described for one of two protocols, which differ in the answer alone. `Fault.defect?` says what is
wrong with a description, and is the only judge of that.
-/

namespace FaultInjection

open Number Text

/-! ## Descriptions -/

/-- The protocols whose requests can be disturbed. -/
inductive Protocol where
  | http
  | grpc
deriving DecidableEq, Repr

/-- The name of a protocol. -/
def Protocol.name : Protocol → String
  | .http => "http"
  | .grpc => "grpc"

/-- The protocol of a name. -/
def Protocol.ofName? : String → Option Protocol
  | "http" => some .http
  | "grpc" => some .grpc
  | _ => none

theorem Protocol.ofName?_name (p : Protocol) : ofName? p.name = some p := by cases p <;> rfl

theorem Protocol.ofName?_eq_some_iff {name : String} {p : Protocol} :
    ofName? name = some p ↔ name = p.name := by
  constructor
  · unfold ofName?
    split <;> rintro ⟨⟩ <;> rfl
  · rintro rfl
    exact ofName?_name p

/-- What a disturbed request is answered with. -/
inductive Answer where
  | http (code : UInt16) (body : String)
  | grpc (status : Int32) (message : String)
deriving DecidableEq, Repr

/-- The protocol that an answer belongs to. -/
def Answer.protocol : Answer → Protocol
  | .http .. => .http
  | .grpc .. => .grpc

/-- A fault, with its delays in some measure of time. -/
structure Fault (Delay : Type) where
  /-- The mean delay of a request. -/
  averageDelay : Delay
  /-- How far a delay may be from the mean. -/
  delayVariation : Delay
  /-- The share of requests that are answered with an error. -/
  errorRate : Binary64
  /-- The answer to those. -/
  answer : Answer
  /-- The requests left alone: path starts, or service names. -/
  exclude : List String
  /-- The port that the pod serves on; zero stands for the usual one. -/
  port : UInt16
  /-- The port of the proxy; zero stands for the usual one. -/
  proxyPort : UInt16
  /-- The network interface; the empty name stands for the usual one. -/
  iface : String
deriving DecidableEq, Repr

namespace Fault

/-- The protocol whose requests are disturbed. -/
def protocol {Delay : Type} (f : Fault Delay) : Protocol := f.answer.protocol

/-- The same fault with its delays in another measure. -/
def map {Delay Other : Type} (g : Delay → Other) (f : Fault Delay) : Fault Other :=
  { f with averageDelay := g f.averageDelay, delayVariation := g f.delayVariation }

/-! ## Defects -/

/-- Why a fault cannot be applied. -/
inductive Defect where
  | noDuration
  | errorRate (rate : Binary64)
  | variation (variation average : Duration)
  | excludeEntry (entry : String)
  | noErrorCode
deriving DecidableEq, Repr

/-- The defect in words. -/
def Defect.message : Defect → String
  | .noDuration => "duration must be positive"
  | .errorRate rate => "error rate must be in [0, 1], got " ++ rate.text
  | .variation v a =>
    "delay variation " ++ v.scaledText ++ " exceeds average delay " ++ a.scaledText
  | .excludeEntry e =>
    "exclude entry '" ++ e ++ "' must be non-empty and cannot contain ','"
  | .noErrorCode => "error code is required when error rate is set"

/-- An entry that would not survive in a list with commas. -/
def isBadEntry (entry : String) : Bool := entry = "" || entry.toList.contains ','

/-- An error rate that needs a code, without one. -/
def lacksCode (f : Fault Duration) : Bool :=
  match f.answer with
  | .http code _ => f.errorRate.isPositive && code == 0
  | .grpc .. => false

/-- The first thing that is wrong with a fault that is to last for a duration. -/
def defect? (f : Fault Duration) (duration : Duration) : Option Defect :=
  if duration = .zero then some .noDuration
  else if !f.errorRate.inUnitInterval then some (.errorRate f.errorRate)
  else if f.averageDelay < f.delayVariation then
    some (.variation f.delayVariation f.averageDelay)
  else
    match f.exclude.find? isBadEntry with
    | some e => some (.excludeEntry e)
    | none => if f.lacksCode then some .noErrorCode else none

end Fault

end FaultInjection
