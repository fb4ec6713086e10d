import FaultInjection.Experiment
import FaultInjection.Yaml.Assembly
import FaultInjection.Yaml.Decode

/-!
# Experiments from documents

An experiment is written as a mapping. Its texts are taken as they are written. The fault is a
mapping of its own, whose protocol decides which other entries it has, so that all of them are read
for what they stand for before the protocol is known. Entries with other names are of no concern,
and an entry that is missing has its default.
-/

namespace FaultInjection.Experiment

open Number Yaml Yaml.Document

/-! ## Faults -/

/-- The entries of a fault. -/
inductive FaultField where
  | averageDelay
  | delayVariation
  | errorRate
  | number
  | text
  | exclude
  | port
  | proxyPort
  | iface
deriving DecidableEq, Repr

namespace FaultField

/-- The entries in the order in which they stand when they have no names. -/
def all : List FaultField :=
  [.averageDelay, .delayVariation, .errorRate, .number, .text, .exclude, .port, .proxyPort, .iface]

/-- The name of an entry in a fault of a protocol. -/
def name (protocol : Protocol) : FaultField → String
  | .averageDelay => "averageDelayMs"
  | .delayVariation => "delayVariationMs"
  | .errorRate => "errorRate"
  | .number => match protocol with
    | .http => "errorCode"
    | .grpc => "statusCode"
  | .text => match protocol with
    | .http => "errorBody"
    | .grpc => "statusMessage"
  | .exclude => "exclude"
  | .port => "port"
  | .proxyPort => "proxyPort"
  | .iface => "iface"

/-- The entry that a key of a fault stands for, if there is one: a name, or a number in the order
above. -/
def ofKey (protocol : Protocol) : Content → Except DecodeError (Option FaultField)
  | .atom (.text s) => .ok (all.find? fun f => f.name protocol = s)
  | .atom (.whole n) =>
    if n < 0 then .error (.invalidType (Atom.whole n).shown "field identifier")
    else .ok all[n.toNat]?
  | other => .error (.invalidType other.shown "field identifier")

end FaultField

/-- The fault of a protocol of which nothing is said. -/
def emptyFault (protocol : Protocol) : Fault UInt64 where
  averageDelay := 0
  delayVariation := 0
  errorRate := .zero
  answer := match protocol with
    | .http => .http 0 ""
    | .grpc => .grpc 0 ""
  exclude := []
  port := 0
  proxyPort := 0
  iface := ""

/-- A number of milliseconds. -/
def readMillis (value : Content) : Except DecodeError UInt64 :=
  (value.readWhole "u64" (.unsigned 64)).map fun n => .ofNat n.toNat

/-- A number of sixteen bits. -/
def readPort (value : Content) : Except DecodeError UInt16 :=
  (value.readWhole "u16" (.unsigned 16)).map fun n => .ofNat n.toNat

/-- The answer with another number. -/
def withNumber (value : Content) : Answer → Except DecodeError Answer
  | .http _ body => (readPort value).map fun code => .http code body
  | .grpc _ message =>
    (value.readWhole "i32" (.signed 32)).map fun status => .grpc (.ofInt status) message

/-- The answer with another text. -/
def withText (value : Content) (answer : Answer) : Except DecodeError Answer :=
  value.readText.map fun text => match answer with
    | .http code _ => .http code text
    | .grpc status _ => .grpc status text

/-- The fault with another value of an entry. -/
def withField (fault : Fault UInt64) (field : FaultField) (value : Content) :
    Except DecodeError (Fault UInt64) :=
  match field with
  | .averageDelay => (readMillis value).map fun v => { fault with averageDelay := v }
  | .delayVariation => (readMillis value).map fun v => { fault with delayVariation := v }
  | .errorRate => value.readReal.map fun v => { fault with errorRate := v }
  | .number => (withNumber value fault.answer).map fun v => { fault with answer := v }
  | .text => (withText value fault.answer).map fun v => { fault with answer := v }
  | .exclude => value.readTexts.map fun v => { fault with exclude := v }
  | .port => (readPort value).map fun v => { fault with port := v }
  | .proxyPort => (readPort value).map fun v => { fault with proxyPort := v }
  | .iface => value.readText.map fun v => { fault with iface := v }

/-- The fault with the values of some entries, of which none may be given twice. -/
def withEntries (protocol : Protocol) : List FaultField → Fault UInt64 → List (Content × Content) →
    Except DecodeError (Fault UInt64)
  | _, fault, [] => .ok fault
  | seen, fault, (key, value) :: r => do
    match ← FaultField.ofKey protocol key with
    | none => withEntries protocol seen fault r
    | some field =>
      if field ∈ seen then .error (.duplicateField (field.name protocol))
      else withEntries protocol (field :: seen) (← withField fault field value) r

/-- The fault with the values of its entries in order. -/
def withItems : List FaultField → Fault UInt64 → List Content → Except DecodeError (Fault UInt64)
  | _, fault, [] => .ok fault
  | [], _, _ :: _ => .error .malformed
  | field :: fields, fault, value :: r => do withItems fields (← withField fault field value) r

/-! ## The protocol among the entries -/

/-- What a fault is, for messages. -/
def faultKind : String := "internally tagged enum FaultConfig"

/-- The entry that names the protocol. -/
def protocolKey : String := "protocol"

/-- How deep collections of a fault may be nested, less the fault itself. -/
def faultDepth : Nat := 126

/-- The protocol that a node names. -/
def readProtocol (document : Document) (node : Node) : Reading Protocol := do
  let name ← document.readText "variant identifier" node
  match Protocol.ofName? name with
  | some p => return p
  | none => throw (.unknownVariant name "`http` or `grpc`")

/-- The key of an entry of a fault. -/
def bufferKey (document : Document) (node : Node) : Reading Content := do
  match ← document.follow node with
  | .scalar tag style text =>
    return .atom (← bufferScalar "a type tag `protocol` or any other value" tag style text)
  | other => document.buffer faultDepth other

/-- The protocol and the other entries of a fault. -/
def splitEntries (document : Document) : Option Protocol → List (Node × Node) →
    Reading (Option Protocol × List (Content × Content))
  | protocol, [] => return (protocol, [])
  | protocol, (k, v) :: r => do
    match ← bufferKey document k with
    | .atom (.text "protocol") =>
      if protocol.isSome then throw (.duplicateField protocolKey)
      else splitEntries document (some (← readProtocol document v)) r
    | key =>
      let value ← document.buffer faultDepth v
      let (protocol, entries) ← splitEntries document protocol r
      return (protocol, (key, value) :: entries)

/-- The fault of a sequence, whose first item names the protocol. -/
def readFaultItems (document : Document) : List Node → Reading (Fault UInt64)
  | [] => throw (.missingField protocolKey)
  | first :: rest => do
    let protocol ← readProtocol document first
    let values ← rest.mapM (document.buffer faultDepth)
    withItems FaultField.all (emptyFault protocol) values

/-- The fault of a mapping, of which an entry names the protocol. -/
def readFaultEntries (document : Document) (entries : List (Node × Node)) :
    Reading (Fault UInt64) := do
  match ← splitEntries document none entries with
  | (none, _) => throw (.missingField protocolKey)
  | (some protocol, entries) => withEntries protocol [] (emptyFault protocol) entries

/-- The fault that a node describes. -/
def readFault (document : Document) (node : Node) : Reading (Fault UInt64) := do
  let unlessForeign (tag : Option String) (reading : Reading (Fault UInt64)) :=
    if isLocalTag tag then throw (.invalidType "enum" faultKind) else reading
  match ← document.follow node with
  | .scalar tag style text =>
    unlessForeign tag (throw (typeError faultKind (.scalar tag style text)))
  | .sequence tag items => unlessForeign tag (readFaultItems document items)
  | .mapping tag entries => unlessForeign tag (readFaultEntries document entries)
  | .alias _ | .cut => throw .malformed

/-! ## Experiments -/

/-- The labels that a node lists. -/
def readLabels (document : Document) (node : Node) : Reading Labels := do
  let entries ← document.readEntries "a map" node
  let pairs ← entries.mapM fun (k, v) => do
    let key ← document.readText "a string" k
    return (key, ← document.readText "a string" v)
  return .ofList pairs

/-- The entries of an experiment. -/
inductive Field where
  | scope
  | select
  | exclude
  | injectTimeout
  | agentImage
  | duration
  | fault
deriving DecidableEq, Repr

/-- The name of an entry. -/
def Field.name : Field → String
  | .scope => "namespace"
  | .select => "select"
  | .exclude => "exclude"
  | .injectTimeout => "injectTimeoutSecs"
  | .agentImage => "agentImage"
  | .duration => "durationSecs"
  | .fault => "fault"

/-- All entries of an experiment. -/
def Field.all : List Field :=
  [.scope, .select, .exclude, .injectTimeout, .agentImage, .duration, .fault]

/-- An experiment of which nothing but the fault may be missing. -/
structure Draft where
  /-- The namespace of the pods. -/
  scope : String := ""
  /-- The labels that a pod must carry. -/
  select : Labels := .empty
  /-- The labels that a pod must not carry. -/
  exclude : Labels := .empty
  /-- The seconds to wait for the agent. -/
  injectTimeoutSecs : Int64 := 0
  /-- The image of the agent. -/
  agentImage : String := Agent.defaultImage
  /-- The seconds for which the fault lasts. -/
  durationSecs : UInt64 := defaultDurationSecs
  /-- The fault. -/
  fault : Option (Fault UInt64) := none

/-- The draft with the value of an entry. -/
def Draft.withField (document : Document) (draft : Draft) (field : Field) (node : Node) :
    Reading Draft := do
  match field with
  | .scope => return { draft with scope := ← document.readText "a string" node }
  | .select => return { draft with select := ← readLabels document node }
  | .exclude => return { draft with exclude := ← readLabels document node }
  | .injectTimeout =>
    let n ← document.readNumber "i64" (readSigned (.signed 64)) node
    return { draft with injectTimeoutSecs := .ofInt n }
  | .agentImage => return { draft with agentImage := ← document.readText "a string" node }
  | .duration =>
    let n ← document.readNumber "u64" (readUnsigned (.unsigned 64)) node
    return { draft with durationSecs := .ofNat n.toNat }
  | .fault => return { draft with fault := some (← readFault document node) }

/-- The draft with the values of some entries, of which none may be given twice. -/
def Draft.withEntries (document : Document) : List Field → Draft → List (Node × Node) →
    Reading Draft
  | _, draft, [] => return draft
  | seen, draft, (k, v) :: r => do
    let name ← document.readText "field identifier" k
    match Field.all.find? (·.name = name) with
    | none =>
      ignore v
      withEntries document seen draft r
    | some field =>
      if field ∈ seen then throw (.duplicateField name)
      else withEntries document (field :: seen) (← draft.withField document field v) r

/-- The experiment of a draft. -/
def Draft.finish (draft : Draft) : Except DecodeError Experiment :=
  match draft.fault with
  | none => .error (.missingField Field.fault.name)
  | some fault => .ok {
      scope := draft.scope
      select := draft.select
      exclude := draft.exclude
      injectTimeoutSecs := draft.injectTimeoutSecs
      agentImage := draft.agentImage
      durationSecs := draft.durationSecs
      fault }

/-- The draft that the root of a document describes. -/
def readDraft (document : Document) : Reading Draft := do
  match document.root with
  | none => return {}
  | some root =>
    Draft.withEntries document [] {} (← document.readEntries "struct ExperimentConfig" root)

/-- The experiment that a document describes. -/
def ofDocument (document : Document) : Except DecodeError Experiment := do
  let experiment ← (← document.read (readDraft document)).finish
  if document.complete then return experiment else .error .malformed

/-- The experiment that a text describes. -/
def ofText (s : String) : Except DecodeError Experiment := ofDocument (.ofText s)

end FaultInjection.Experiment
