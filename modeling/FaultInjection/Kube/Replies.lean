import FaultInjection.Kube.Samples

/-!
# Scripted replies

A book of replies answers requests by their method and path. Each entry has replies that are given
in turn, of which the last one is given again and again. A request whose path has no entry of its
own is answered by an entry for the start of its path.
-/

namespace FaultInjection.Kube

/-! ## Taking turns -/

/-- The first of some things, and those that are left: all but the first, unless it is the last. -/
def takeTurn {α : Type} : List α → Option α × List α
  | [] => (none, [])
  | [a] => (some a, [a])
  | a :: r => (some a, r)

/-! ## Books -/

/-- An answer to a request. -/
structure Reply where
  /-- The status code. -/
  status : Nat
  /-- The body. -/
  body : String
deriving DecidableEq, Repr

/-- What an entry answers: the requests of a method for a path. -/
structure ReplyKey where
  /-- The method. -/
  method : String
  /-- The path. -/
  path : String
deriving DecidableEq, Repr

/-- An entry that answers the requests whose path goes on from its own. -/
def ReplyKey.covers (key : ReplyKey) (method path : String) : Bool :=
  key.method = method && key.path.toList.isPrefixOf path.toList

/-- The replies that are left for each key. -/
structure ReplyBook where
  /-- The keys with their replies. -/
  entries : List (ReplyKey × List Reply)
deriving DecidableEq, Repr

namespace ReplyBook

/-- The book without entries. -/
def empty : ReplyBook := ⟨[]⟩

/-- The replies of a key. -/
def get? (book : ReplyBook) (key : ReplyKey) : Option (List Reply) := book.entries.lookup key

/-- The book in which a key has these replies. -/
def put (book : ReplyBook) (key : ReplyKey) (replies : List Reply) : ReplyBook :=
  ⟨(key, replies) :: book.entries.filter (·.1 ≠ key)⟩

/-- The key that answers a request: its own, or one that covers it. -/
def resolve? (book : ReplyBook) (method path : String) : Option ReplyKey :=
  if (book.get? ⟨method, path⟩).isSome then some ⟨method, path⟩
  else (book.entries.find? (·.1.covers method path)).map (·.1)

/-- The reply for which there is no entry. -/
def missing (path : String) : Reply := ⟨404, (Samples.notFound "path" path).text⟩

/-- The reply to a request, and the book afterwards. -/
def answer (book : ReplyBook) (method path : String) : Reply × ReplyBook :=
  match book.resolve? method path with
  | none => (missing path, book)
  | some key =>
    let (reply, left) := takeTurn ((book.get? key).getD [])
    (reply.getD (missing path), book.put key left)

end ReplyBook

end FaultInjection.Kube
