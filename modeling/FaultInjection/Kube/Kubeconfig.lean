import FaultInjection.Kube.Address
import FaultInjection.Yaml.Assembly
import FaultInjection.Yaml.Shape

/-!
# Cluster configurations

A configuration lists clusters and contexts by name. Its current context names the cluster to use.
-/

namespace FaultInjection.Kube

open Yaml

/-- Where a cluster is. -/
structure Cluster where
  /-- The address of its server. -/
  server : Option String
  /-- The address of the proxy on the way to it. -/
  proxy : Option String
deriving DecidableEq, Repr

/-- A way to use a cluster. -/
structure Context where
  /-- The name of the cluster. -/
  cluster : String
  /-- The namespace to use unless another one is named. -/
  scope : Option String
deriving DecidableEq, Repr

/-- Where clusters are and how they are used. -/
structure Kubeconfig where
  /-- The kind that the configuration states. -/
  kind : Option String
  /-- The version that the configuration states. -/
  apiVersion : Option String
  /-- The name of the context to use. -/
  current : Option String
  /-- The clusters by name; a name may have no cluster. -/
  clusters : List (String × Option Cluster)
  /-- The contexts by name; a name may have no context. -/
  contexts : List (String × Option Context)
deriving DecidableEq, Repr

namespace Kubeconfig

/-! ## The form of a configuration -/

/-- A text that may be missing. -/
def textShape : Shape := .optional .text

/-- A list of entries with names, each with a value of some shape. -/
def namedShape (member : String) (value : Shape) : Shape :=
  .optional (.list (.record [("name", .text), (member, value)]))

/-- Data of other programs. -/
def extensionsShape : Shape := namedShape "extension" .data

/-- What a configuration says of a cluster. -/
def clusterShape : Shape := .record [
  ("server", textShape), ("insecure-skip-tls-verify", .optional .flag),
  ("certificate-authority", textShape), ("certificate-authority-data", textShape),
  ("proxy-url", textShape), ("disable-compression", .optional .flag),
  ("tls-server-name", textShape), ("extensions", extensionsShape)]

/-- A program that finds out who uses a cluster. -/
def execShape : Shape := .record [
  ("apiVersion", textShape), ("command", textShape), ("args", .optional (.list .text)),
  ("env", .optional (.list (.table .text))),
  ("interactiveMode", .optional (.word ["Never", "IfAvailable", "Always"])),
  ("provideClusterInfo", .omissible .flag)]

/-- Who uses a cluster. -/
def userShape : Shape := .record [
  ("username", textShape), ("password", textShape), ("token", textShape),
  ("tokenFile", textShape), ("client-certificate", textShape),
  ("client-certificate-data", textShape), ("client-key", textShape),
  ("client-key-data", textShape), ("as", textShape), ("as-groups", .optional (.list .text)),
  ("auth-provider", .optional (.record [("name", .text), ("config", .omissible (.table .text))])),
  ("exec", .optional execShape)]

/-- What a configuration says of a context. -/
def contextShape : Shape := .record [
  ("cluster", .text), ("user", textShape), ("namespace", textShape),
  ("extensions", extensionsShape)]

/-- The form of a configuration. -/
def shape : Shape := .record [
  ("preferences", .optional (.record [
    ("colors", .optional .flag), ("extensions", extensionsShape)])),
  ("clusters", namedShape "cluster" (.optional clusterShape)),
  ("users", namedShape "user" (.optional userShape)),
  ("contexts", namedShape "context" (.optional contextShape)),
  ("current-context", textShape), ("extensions", extensionsShape),
  ("kind", textShape), ("apiVersion", textShape)]

/-! ## Reading -/

/-- The entries of a list with their names. -/
def named {α : Type} (config : Content) (field member : String) (read : Content → α) :
    List (String × Option α) :=
  ((config.entry? field).map Content.items |>.getD []).map fun item =>
    ((item.entryText? "name").getD "", (item.entry? member).map read)

/-- The configuration of a content of the right shape. -/
def ofContent (config : Content) : Kubeconfig where
  kind := config.entryText? "kind"
  apiVersion := config.entryText? "apiVersion"
  current := config.entryText? "current-context"
  clusters := named config "clusters" "cluster" fun c =>
    { server := c.entryText? "server", proxy := c.entryText? "proxy-url" }
  contexts := named config "contexts" "context" fun c =>
    { cluster := (c.entryText? "cluster").getD "", scope := c.entryText? "namespace" }

/-- The configuration of a text that holds no other document. -/
def ofText? (s : String) : Option Kubeconfig :=
  let document := Document.ofText s
  if document.complete then (document.fit? shape).map ofContent else none

/-! ## Several configurations -/

/-- The configuration that says nothing. -/
def empty : Kubeconfig := ⟨none, none, none, [], []⟩

/-- Two statements that do not contradict each other. -/
def agree (a b : Option String) : Bool := a.isNone || b.isNone || a = b

/-- The entries of a list, and those of another one whose names are new. -/
def addNew {α : Type} (entries more : List (String × α)) : List (String × α) :=
  entries ++ more.filter fun e => entries.all (·.1 ≠ e.1)

/-- Two configurations as one, in which the first one counts. -/
def merge? (a b : Kubeconfig) : Option Kubeconfig :=
  if agree a.kind b.kind && agree a.apiVersion b.apiVersion then some {
    kind := a.kind <|> b.kind
    apiVersion := a.apiVersion <|> b.apiVersion
    current := a.current <|> b.current
    clusters := addNew a.clusters b.clusters
    contexts := addNew a.contexts b.contexts }
  else none

/-- Some configurations as one. -/
def mergeAll? (configs : List Kubeconfig) : Option Kubeconfig := configs.foldlM merge? empty

/-- The configuration of a document by its content. -/
def ofDocument? (document : Document) : Option Kubeconfig := do
  return ofContent (← shape.convert? (← document.content?))

/-- The configuration of all documents of a text, each by its content. -/
def ofDocuments? (s : String) : Option Kubeconfig := do
  mergeAll? (← (Document.listOfText s).mapM ofDocument?)

/-! ## The cluster to use -/

/-- Why a configuration leads to no cluster. -/
inductive Fault where
  | noCurrentContext
  | context (name : String)
  | cluster (name : String)
  | noAddress
  | address (fault : UriFault)
  | proxy (fault : UriFault)
deriving DecidableEq, Repr

/-- The fault in words. -/
def Fault.message : Fault → String
  | .noCurrentContext => "failed to determine current context"
  | .context name => "failed to load current context: " ++ name
  | .cluster name => "failed to load the cluster of context: " ++ name
  | .noAddress => "cluster url is missing on selected cluster"
  | .address fault => "failed to parse cluster url: " ++ fault.message
  | .proxy fault => "failed to parse proxy url: " ++ fault.message

/-- The way to a cluster. -/
structure Route where
  /-- The namespace to use. -/
  scope : String
  /-- The address of the server. -/
  server : Address
  /-- The proxy in between. -/
  proxy : Option Address
deriving DecidableEq, Repr

/-- The current context and its cluster. -/
def current? (config : Kubeconfig) : Except Fault (Context × Cluster) := do
  let some name := config.current | throw .noCurrentContext
  let some context := (config.contexts.lookup name).join | throw (.context name)
  let some cluster := (config.clusters.lookup context.cluster).join
    | throw (.cluster context.cluster)
  return (context, cluster)

/-- The way to the cluster of the current context. A proxy that the cluster does not name itself may
be named elsewhere. -/
def route (config : Kubeconfig) (usualProxy : Option String) : Except Fault Route := do
  let (context, cluster) ← config.current?
  let some server := cluster.server | throw .noAddress
  let server ← (Address.read server.toList).mapError Fault.address
  let proxy ← match cluster.proxy.filter (· ≠ "") <|> usualProxy with
    | none => pure none
    | some proxy => (Address.read proxy.toList).map some |>.mapError Fault.proxy
  return { scope := context.scope.getD "default", server, proxy }

end Kubeconfig

end FaultInjection.Kube
