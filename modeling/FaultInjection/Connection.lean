import FaultInjection.Kube.Access
import FaultInjection.Kube.Kubeconfig
import FaultInjection.Settings
import FaultInjection.Text.Utf16

/-!
# Connections

The cluster is the one of a configuration file, or of the files that a variable lists, or of the
file in the home directory. It is reached directly: a proxy on the way to it is refused. A
connection is made when the cluster states a version that is recent enough.
-/

namespace FaultInjection

open Kube Text

/-- The surroundings in which a cluster is looked for. -/
structure Surroundings where
  /-- The variables. -/
  env : Environment
  /-- The files. -/
  files : Files
  /-- The path of the configuration in the home directory, if there is one. -/
  home : Option String

namespace Connection

/-- The failure of a connection. -/
def failure (cause : String) : Failure := .connection cause

/-! ## Finding the cluster -/

/-- The variables that can name a proxy. The first one that says something counts. -/
def proxyVariables : List String := ["HTTP_PROXY", "http_proxy", "HTTPS_PROXY", "https_proxy"]

/-- The proxy that the variables name. -/
def usualProxy (s : Surroundings) : Option String :=
  proxyVariables.findSome? fun name => (s.env.texts name).filter (· ≠ "")

/-- The way to the cluster by the configuration of a file. -/
def routeOfFile (s : Surroundings) (path : String) : Except Failure Kubeconfig.Route :=
  match s.files.read path with
  | .error fault => .error (failure ("Failed to read " ++ path ++ ": " ++ fault.message))
  | .ok text =>
    match Kubeconfig.ofText? text with
    | none => .error (failure "Failed to parse kubeconfig: unexpected form")
    | some config =>
      (config.route (usualProxy s)).mapError fun fault =>
        failure ("Failed to create config: " ++ fault.message)

/-- The configuration of some files together. The octets of a file may be marked. -/
def mergeFiles (files : Files) (paths : List String) : Option Kubeconfig := do
  let texts ← paths.mapM fun path => (files path).toOption.bind decodeMarked?
  Kubeconfig.mergeAll? (← texts.mapM Kubeconfig.ofDocuments?)

/-- The files that the variable lists, or else the one in the home directory. -/
def usualPaths (s : Surroundings) : List String :=
  let listed := (((s.env "KUBECONFIG").map decodeLenient).getD "").toList
  match ((splitAt ':' listed).filter (· ≠ [])).map String.ofList with
  | [] => s.home.toList
  | paths => paths

/-- The way to the cluster by the configuration in its usual places. -/
def inferRoute (s : Surroundings) : Except Failure Kubeconfig.Route :=
  let found := match usualPaths s with
    | [] => none
    | paths => (mergeFiles s.files paths).bind fun config => (config.route (usualProxy s)).toOption
  match found with
  | some route => .ok route
  | none => .error (failure "Failed to infer config: no configuration in use")

/-- The way to the cluster by a configuration file, or by the usual ones. -/
def findRoute (path : Option String) (s : Surroundings) : Except Failure Kubeconfig.Route :=
  match path with
  | some path => routeOfFile s path
  | none => inferRoute s

/-! ## Connecting -/

/-- What would be needed for the proxies of some schemes. -/
def missingFeatures : List (String × String) :=
  [("socks5", "kube/socks5"), ("http", "kube/http-proxy")]

/-- Why a proxy is refused. -/
def proxyMessage (proxy : Address) : String :=
  "Failed to create client: configured proxy " ++ proxy.text
    ++ match proxy.scheme.bind fun scheme => missingFeatures.lookup scheme with
      | some feature => " requires the disabled feature " ++ quoted feature
      | none => " uses an unsupported protocol"

/-- A way that needs no proxy. -/
def checkRoute (route : Kubeconfig.Route) : Except Failure Unit :=
  match route.proxy with
  | none => .ok ()
  | some proxy => .error (failure (proxyMessage proxy))

/-- Connects to the server at the end of a way: the namespace to use. -/
def follow (route : Kubeconfig.Route) (server : Server) : Except Failure String × Server :=
  if route.server.isAbsolute then
    let (checked, server) := requireVersion server
    (checked.map fun () => route.scope, server)
  else (.error (.cluster .nowhere), server)

/-- Connects to the cluster of a configuration file, or of the usual one: the namespace to use. -/
def connect (path : Option String) (s : Surroundings) (server : Server) :
    Except Failure String × Server :=
  match (findRoute path s).bind fun route => (checkRoute route).map fun () => route with
  | .error e => (.error e, server)
  | .ok route => follow route server

end Connection

end FaultInjection
