import FaultInjection.Kube.Uri

/-!
# Addresses of servers

An address names the scheme, the host and the target of a server. The host may stand alone, and so
may the target; a scheme needs a host.
-/

namespace FaultInjection.Kube

open Number Text

/-- Where a server is found. -/
structure Address where
  /-- The scheme. -/
  scheme : Option String
  /-- The host, with its port and what stands in front of it. -/
  host : String
  /-- The path, unless nothing is said of it. -/
  path : String
  /-- The query. -/
  query : Option String
deriving DecidableEq, Repr

namespace Address

/-- The path with what goes without saying. Behind a scheme there is always one. -/
def wholePath (a : Address) : String :=
  if a.path = "" ∧ (a.scheme.isSome ∨ a.query.isSome) then "/" else a.path

/-- The address as a text. -/
def text (a : Address) : String :=
  (a.scheme.map (· ++ "://")).getD "" ++ a.host ++ a.wholePath ++ (a.query.map ("?" ++ ·)).getD ""

/-- The address says where the server is. -/
def isAbsolute (a : Address) : Bool := a.scheme.isSome && a.host ≠ ""

/-! ## Schemes -/

/-- A character that may stand in the name of a scheme. -/
def isSchemeChar (c : Char) : Bool :=
  isDigit c || ('a' ≤ c && c ≤ 'z') || ('A' ≤ c && c ≤ 'Z') || "+-.~".toList.contains c

/-- The schemes whose names may be written in capitals. -/
def knownSchemes : List String := ["http", "https"]

/-- The scheme in front of an address that is known, and the text after it. -/
def splitKnownScheme (s : List Char) : Option (String × List Char) :=
  knownSchemes.findSome? fun scheme =>
    let start := scheme.toList ++ "://".toList
    if (s.take start.length).map Char.toLower = start then some (scheme, s.drop start.length)
    else none

/-- The scheme in front of an address, if it has one, and the text after it. -/
def splitScheme (s : List Char) : Except UriFault (Option String × List Char) :=
  match splitKnownScheme s with
  | some (scheme, r) => .ok (some scheme, r)
  | none =>
    let (scheme, rest) := s.span isSchemeChar
    match rest with
    | ':' :: '/' :: '/' :: r =>
      if s.length ≤ 3 then .ok (none, s)
      else if 64 < scheme.length then .error .schemeTooLong
      else .ok (some (String.ofList scheme), r)
    | _ => .ok (none, s)

/-! ## Hosts -/

/-- A character that may stand in front of the path of an address. -/
def isHostChar (c : Char) : Bool :=
  isDigit c || ('a' ≤ c && c ≤ 'z') || ('A' ≤ c && c ≤ 'Z')
    || "!$&'()*+,-.:;=@[]_~%".toList.contains c

/-- What has been seen of a host. -/
structure HostScan where
  /-- The colons that may precede a port. -/
  colons : Nat
  /-- A bracket was opened. -/
  opened : Bool
  /-- A bracket was closed. -/
  closed : Bool
  /-- A percent sign that is in place nowhere. -/
  percent : Bool
  /-- The last character was an at sign. -/
  atEnd : Bool

/-- What has been seen after one more character. -/
def HostScan.next (h : HostScan) (c : Char) : Except UriFault HostScan :=
  let h := { h with atEnd := false }
  if !isHostChar c then .error .character
  else if c = ':' then
    if 8 ≤ h.colons then .error .authority else .ok { h with colons := h.colons + 1 }
  else if c = '[' then
    if h.percent || h.opened then .error .authority else .ok { h with opened := true }
  else if c = ']' then
    if !h.opened || h.closed then .error .authority
    else .ok { h with closed := true, colons := 0, percent := false }
  else if c = '@' then .ok { h with colons := 0, percent := false, atEnd := true }
  else if c = '%' then .ok { h with percent := true }
  else .ok h

/-- A text names a host. -/
def checkHost (s : List Char) : Except UriFault Unit := do
  let h ← s.foldlM HostScan.next ⟨0, false, false, false, false⟩
  if h.opened != h.closed || 1 < h.colons || h.atEnd || h.percent then .error .authority else .ok ()

/-! ## Reading -/

/-- The host in front of a text, and the target after it. -/
def splitHost (s : List Char) : Except UriFault (List Char × List Char) := do
  let (host, rest) := s.span fun c => c ≠ '/' ∧ c ≠ '?' ∧ c ≠ '#'
  checkHost host
  return (host, rest)

/-- An address of a target alone. -/
def ofTarget (scheme : Option String) (host s : List Char) : Except UriFault Address := do
  let (path, query) ← splitTarget s
  return ⟨scheme, String.ofList host, String.ofList path, query.map String.ofList⟩

/-- The address that a text spells. -/
def read (s : List Char) : Except UriFault Address := do
  if isTooLong s then throw .tooLong
  match s with
  | [] => throw .empty
  | ['*'] => return ⟨none, "", "*", none⟩
  | '/' :: _ => ofTarget none [] s
  | [_] =>
    let (host, rest) ← splitHost s
    if rest = [] then return ⟨none, String.ofList host, "", none⟩ else throw .character
  | _ =>
    let (scheme, afterScheme) ← splitScheme s
    let (host, rest) ← splitHost afterScheme
    match scheme with
    | none => if rest = [] then return ⟨none, String.ofList host, "", none⟩ else throw .form
    | some _ =>
      if afterScheme = [] then throw .empty
      else if host = [] then throw .form
      else ofTarget scheme host rest

end Address

end FaultInjection.Kube
