import FaultInjection.Proofs.Kube.Requests
import Mathlib.Data.List.Induction

/-!
# Scripted replies in turn

A book is filled by registrations, of which the latest counts for each key (`Latest`), and then it
answers requests.  A request is told by its method and its path, as a key is.  It is served by its own
key if that is registered, and otherwise by a key with which its path begins (`Serves`).  A key gives
its replies in the order of the requests that it serves, and the last one again and again (`Due`).
What the other keys give makes no difference to it, and what no key serves is not found (`InTurn`,
`inTurn_of_clear`).
-/

namespace FaultInjection.Kube

/-- **A key is a start of a request**: it has the same method, and a path with which that of the
request begins. -/
def ReplyKey.IsStartOf (key asked : ReplyKey) : Prop :=
  key.method = asked.method ∧ key.path.toList <+: asked.path.toList

instance (key asked : ReplyKey) : Decidable (key.IsStartOf asked) :=
  inferInstanceAs (Decidable (_ ∧ _))

namespace ReplyBook

/-! ## Who serves a request -/

/-- **A key serves a request** if it is that of the request, or if that is not there and the key is a
start of it. -/
def Serves (keys : List ReplyKey) (key asked : ReplyKey) : Prop :=
  key ∈ keys ∧ (key = asked ∨ asked ∉ keys ∧ key.IsStartOf asked)

/-- **A request is clear** if it has a key of its own, or at most one key is a start of it. -/
def Clear (keys : List ReplyKey) (asked : ReplyKey) : Prop :=
  asked ∉ keys → ∀ key ∈ keys, ∀ other ∈ keys, key.IsStartOf asked → other.IsStartOf asked →
    key = other

instance (keys : List ReplyKey) (key asked : ReplyKey) : Decidable (Serves keys key asked) :=
  inferInstanceAs (Decidable (_ ∧ _))

instance (keys : List ReplyKey) (asked : ReplyKey) : Decidable (Clear keys asked) :=
  inferInstanceAs (Decidable (_ → _))

variable {keys : List ReplyKey} {key other asked : ReplyKey} {book : ReplyBook}
  {replies : List Reply}

theorem serves_own (h : asked ∈ keys) : Serves keys asked asked := ⟨h, Or.inl rfl⟩

/-- A clear request is served by one key at most. -/
theorem Serves.unique (hclear : Clear keys asked) (h : Serves keys key asked)
    (h' : Serves keys other asked) : key = other := by
  obtain ⟨hkey, rfl | ⟨hown, hstart⟩⟩ := h
  · obtain ⟨-, rfl | ⟨hown, -⟩⟩ := h'
    · rfl
    · exact absurd hkey hown
  · obtain ⟨hother, rfl | ⟨-, hstart'⟩⟩ := h'
    · exact absurd hother hown
    · exact hclear hown key hkey other hother hstart hstart'

theorem covers_iff : key.covers asked.method asked.path = true ↔ key.IsStartOf asked := by
  simp [ReplyKey.covers, ReplyKey.IsStartOf]

/-- The keys for which a book has replies. -/
def HasKeys (book : ReplyBook) (keys : List ReplyKey) : Prop :=
  ∀ key, (book.get? key).isSome ↔ key ∈ keys

theorem HasKeys.mem_of_mem (h : book.HasKeys keys) {entry : ReplyKey × List Reply}
    (hentry : entry ∈ book.entries) : entry.1 ∈ keys :=
  (h entry.1).mp (List.lookup_isSome_iff.mpr ⟨entry, hentry, beq_self_eq_true entry.1⟩)

/-- **The key that is looked up** for a clear request is the one that serves it. -/
theorem HasKeys.resolve?_eq_some_iff (h : book.HasKeys keys) (hclear : Clear keys asked) :
    book.resolve? asked.method asked.path = some key ↔ Serves keys key asked := by
  unfold resolve?
  by_cases hown : asked ∈ keys
  · rw [if_pos ((h asked).mpr hown), Option.some.injEq]
    constructor
    · rintro rfl
      exact serves_own hown
    · exact (serves_own hown).unique hclear
  · rw [if_neg (mt (h asked).mp hown), Option.map_eq_some_iff]
    constructor
    · rintro ⟨entry, hfind, rfl⟩
      exact ⟨h.mem_of_mem (List.mem_of_find?_eq_some hfind),
        Or.inr ⟨hown, covers_iff.mp (by simpa only using List.find?_some hfind)⟩⟩
    · rintro ⟨hkey, rfl | ⟨-, hstart⟩⟩
      · exact absurd hkey hown
      · -- Some entry is found, and it can only be that of the key.
        obtain ⟨e, he, hsame⟩ := List.lookup_isSome_iff.mp ((h key).mpr hkey)
        obtain rfl := eq_of_beq hsame
        have hsome : (book.entries.find? (·.1.covers asked.method asked.path)).isSome :=
          List.find?_isSome.mpr ⟨e, he, covers_iff.mpr hstart⟩
        obtain ⟨entry, hfind⟩ := Option.isSome_iff_exists.mp hsome
        have hstart' := covers_iff.mp (by simpa only using List.find?_some hfind)
        exact ⟨entry, hfind, hclear hown _ (h.mem_of_mem (List.mem_of_find?_eq_some hfind)) _ hkey
          hstart' hstart⟩

theorem HasKeys.resolve?_eq_none_iff (h : book.HasKeys keys) (hclear : Clear keys asked) :
    book.resolve? asked.method asked.path = none ↔ ∀ key, ¬ Serves keys key asked := by
  simp only [Option.eq_none_iff_forall_ne_some, ne_eq, h.resolve?_eq_some_iff hclear]

/-! ## One request -/

theorem lookup_filter_ne {α : Type} (h : other ≠ key) (entries : List (ReplyKey × α)) :
    (entries.filter (·.1 ≠ key)).lookup other = entries.lookup other := by
  induction entries with
  | nil => rfl
  | cons e r ih =>
      obtain ⟨found, value⟩ := e
      rw [List.filter_cons, List.lookup_cons]
      by_cases hfound : found = key
      · have hne : (other == found) = false := beq_false_of_ne (hfound ▸ h)
        rw [if_neg (by simpa using hfound), ih, hne]
      · rw [if_pos (by simpa using hfound), List.lookup_cons, ih]

/-- Other keys keep their replies. -/
theorem get?_put_of_ne (h : other ≠ key) : (book.put key replies).get? other = book.get? other := by
  have hne : (other == key) = false := beq_false_of_ne h
  rw [put, get?, List.lookup_cons, hne]
  exact lookup_filter_ne h book.entries

section

variable (h : book.HasKeys keys) (hclear : Clear keys asked)

include h hclear

/-- What no key serves is not found, and changes nothing. -/
theorem HasKeys.answer_of_unserved (hno : ∀ key, ¬ Serves keys key asked) :
    book.answer asked.method asked.path = (missing asked.path, book) := by
  rw [answer, (h.resolve?_eq_none_iff hclear).mpr hno]

/-- What a key serves takes a turn of its replies. -/
theorem HasKeys.answer_of_serves (hserves : Serves keys key asked) :
    book.answer asked.method asked.path =
      ((takeTurn ((book.get? key).getD [])).1.getD (missing asked.path),
        book.put key (takeTurn ((book.get? key).getD [])).2) := by
  simp only [answer, (h.resolve?_eq_some_iff hclear).mpr hserves]

/-- **A request leaves the other keys alone.** -/
theorem HasKeys.get?_answer_of_not_serves (hno : ¬ Serves keys key asked) :
    (book.answer asked.method asked.path).2.get? key = book.get? key := by
  by_cases hserved : ∃ other, Serves keys other asked
  · obtain ⟨other, hserves⟩ := hserved
    have hne : key ≠ other := by
      rintro rfl
      exact hno hserves
    rw [h.answer_of_serves hclear hserves, get?_put_of_ne hne]
  · rw [h.answer_of_unserved hclear (not_exists.mp hserved)]

/-- No key comes or goes with a request. -/
theorem HasKeys.answer : (book.answer asked.method asked.path).2.HasKeys keys := by
  intro key
  by_cases hserves : Serves keys key asked
  · rw [h.answer_of_serves hclear hserves, get?_put]
    exact iff_of_true rfl hserves.1
  · rw [h.get?_answer_of_not_serves hclear hserves, h key]

end

/-! ## Many requests -/

/-- The replies to some requests, one after the other, -/
def answers : ReplyBook → List ReplyKey → List Reply
  | _, [] => []
  | book, asked :: r =>
    (book.answer asked.method asked.path).1 :: answers (book.answer asked.method asked.path).2 r

/-- and the book after them. -/
def afterAll : ReplyBook → List ReplyKey → ReplyBook
  | book, [] => book
  | book, asked :: r => afterAll (book.answer asked.method asked.path).2 r

theorem length_answers (book : ReplyBook) (requests : List ReplyKey) :
    (book.answers requests).length = requests.length := by
  induction requests generalizing book with
  | nil => rfl
  | cons asked r ih => rw [answers, List.length_cons, List.length_cons, ih]

/-- A request is answered by the book after those before it. -/
theorem getElem?_answers (book : ReplyBook) (before : List ReplyKey) (asked : ReplyKey)
    (after : List ReplyKey) : (book.answers (before ++ asked :: after))[before.length]? =
      some ((book.afterAll before).answer asked.method asked.path).1 := by
  induction before generalizing book with
  | nil => rfl
  | cons first before ih =>
      rw [List.cons_append, answers, List.length_cons, List.getElem?_cons_succ, ih, afterAll]

/-- **The turns of a key**: how many of some requests it serves. -/
def turns (keys : List ReplyKey) (key : ReplyKey) (requests : List ReplyKey) : ℕ :=
  requests.countP fun asked => Serves keys key asked

theorem turns_concat (keys : List ReplyKey) (key : ReplyKey) (past : List ReplyKey)
    (asked : ReplyKey) : turns keys key (past ++ [asked]) =
      turns keys key past + if Serves keys key asked then 1 else 0 := by
  simp [turns, List.countP_append, List.countP_cons]

/-- **What some requests have left** in a book: for each key, what its turns have left of the replies
that it had at the start. -/
def LeftBy (start : ReplyBook) (keys past : List ReplyKey) (book : ReplyBook) : Prop :=
  ∀ key, book.get? key = (start.get? key).map (leftAfter (turns keys key past))

variable {start : ReplyBook} {past requests : List ReplyKey}

theorem leftBy_nil (book : ReplyBook) (keys : List ReplyKey) : LeftBy book keys [] book := by
  intro key
  have hleft : leftAfter (α := Reply) 0 = id := by
    funext replies
    simp [leftAfter]
  rw [turns, List.countP_nil, hleft, Option.map_id]
  rfl

/-- A key has what its turns have left of some replies. -/
theorem LeftBy.exists_get? (h : LeftBy start keys past book) (hbook : book.HasKeys keys)
    (hkey : key ∈ keys) : ∃ replies, start.get? key = some replies ∧
      book.get? key = some (leftAfter (turns keys key past) replies) := by
  have hsome := (hbook key).mpr hkey
  rw [h key, Option.isSome_map] at hsome
  obtain ⟨replies, hreplies⟩ := Option.isSome_iff_exists.mp hsome
  exact ⟨replies, hreplies, by rw [h key, hreplies, Option.map_some]⟩

/-- **One request** takes a turn of the key that serves it, and of no other. -/
theorem LeftBy.answer (h : LeftBy start keys past book) (hbook : book.HasKeys keys)
    (hclear : Clear keys asked) :
    LeftBy start keys (past ++ [asked]) (book.answer asked.method asked.path).2 := by
  intro key
  rw [turns_concat]
  by_cases hserves : Serves keys key asked
  · obtain ⟨replies, hstart, hleft⟩ := h.exists_get? hbook hserves.1
    have hkey := (hbook.resolve?_eq_some_iff hclear).mpr hserves
    rw [answer_of_resolve hkey hleft, get?_put, hstart, if_pos hserves, Option.map_some]
  · rw [hbook.get?_answer_of_not_serves hclear hserves, h key, if_neg hserves, Nat.add_zero]

/-- **Many requests** take turns of the keys that serve them. -/
theorem LeftBy.afterAll (h : LeftBy start keys past book) (hbook : book.HasKeys keys)
    (hclear : ∀ asked ∈ requests, Clear keys asked) : (book.afterAll requests).HasKeys keys ∧
      LeftBy start keys (past ++ requests) (book.afterAll requests) := by
  induction requests generalizing past book with
  | nil => exact ⟨hbook, by rwa [List.append_nil]⟩
  | cons asked r ih =>
      obtain ⟨hfirst, hrest⟩ := List.forall_mem_cons.mp hclear
      rw [ReplyBook.afterAll, List.append_cons]
      exact ih (h.answer hbook hfirst) (hbook.answer hfirst) hrest

/-- **A key answers as if it were alone.**  Two books with the same replies for a key give the same
answers to what it serves, though the one is asked for other things in between. -/
theorem filter_answers {book' : ReplyBook} (h : book.HasKeys keys) (h' : book'.HasKeys keys)
    (hsame : book.get? key = book'.get? key) (hclear : ∀ asked ∈ requests, Clear keys asked) :
    ((requests.zip (book.answers requests)).filter fun p => Serves keys key p.1).map (·.2) =
      book'.answers (requests.filter fun asked => Serves keys key asked) := by
  induction requests generalizing book book' with
  | nil => rfl
  | cons asked r ih =>
      obtain ⟨hfirst, hrest⟩ := List.forall_mem_cons.mp hclear
      rw [answers, List.zip_cons_cons, List.filter_cons, List.filter_cons]
      by_cases hserves : Serves keys key asked
      · have hfirst' := h'.answer_of_serves hfirst hserves
        rw [if_pos (decide_eq_true hserves), if_pos (decide_eq_true hserves), List.map_cons, answers,
          ih (h.answer hfirst) (h'.answer hfirst) ?_ hrest]
        · rw [h.answer_of_serves hfirst hserves, h'.answer_of_serves hfirst hserves, hsame]
        · rw [h.answer_of_serves hfirst hserves, h'.answer_of_serves hfirst hserves, hsame,
            get?_put, get?_put]
      · have hkept := h.get?_answer_of_not_serves hfirst hserves
        rw [if_neg (by simpa using hserves), if_neg (by simpa using hserves)]
        exact ih (h.answer hfirst) h' (hkept.trans hsame) hrest

/-! ## Registrations -/

variable {registrations : List (ReplyKey × List Reply)}

/-- The book after some registrations. -/
def registered (registrations : List (ReplyKey × List Reply)) : ReplyBook :=
  registrations.foldl (fun book r => book.put r.1 r.2) empty

/-- The keys of some registrations. -/
def keysOf (registrations : List (ReplyKey × List Reply)) : List ReplyKey :=
  registrations.map (·.1)

/-- **The latest registration** of a key. -/
def Latest (registrations : List (ReplyKey × List Reply)) (key : ReplyKey)
    (replies : List Reply) : Prop :=
  ∃ earlier later, registrations = earlier ++ (key, replies) :: later ∧ ∀ r ∈ later, r.1 ≠ key

theorem get?_registered (registrations : List (ReplyKey × List Reply)) (key : ReplyKey) :
    (registered registrations).get? key = registrations.reverse.lookup key := by
  induction registrations using List.reverseRecOn with
  | nil => rfl
  | append_singleton earlier r ih =>
      obtain ⟨last, replies⟩ := r
      have hput : registered (earlier ++ [(last, replies)]) =
          (registered earlier).put last replies := List.foldl_concat ..
      rw [hput, List.reverse_concat, List.lookup_cons]
      by_cases hkey : key = last
      · rw [hkey, get?_put, beq_self_eq_true]
      · rw [get?_put_of_ne hkey, ih, beq_false_of_ne hkey]

/-- The latest registration of a key counts. -/
theorem get?_registered_eq_some_iff :
    (registered registrations).get? key = some replies ↔ Latest registrations key replies := by
  rw [get?_registered, List.lookup_eq_some_iff]
  constructor
  · rintro ⟨later, earlier, hsplit, hlater⟩
    refine ⟨earlier.reverse, later.reverse, ?_, fun r hr => ?_⟩
    · rw [← List.reverse_reverse registrations, hsplit]
      simp
    · exact fun hsame => absurd (hlater r (List.mem_reverse.mp hr)) (by simp [hsame])
  · rintro ⟨earlier, later, rfl, hlater⟩
    refine ⟨later.reverse, earlier.reverse, by simp, fun r hr => ?_⟩
    simpa using (hlater r (List.mem_reverse.mp hr)).symm

theorem hasKeys_registered (registrations : List (ReplyKey × List Reply)) :
    (registered registrations).HasKeys (keysOf registrations) := by
  intro key
  rw [get?_registered, List.lookup_isSome_iff, keysOf, List.mem_map]
  constructor
  · rintro ⟨r, hr, hsame⟩
    exact ⟨r, List.mem_reverse.mp hr, (eq_of_beq hsame).symm⟩
  · rintro ⟨r, hr, rfl⟩
    exact ⟨r, List.mem_reverse.mpr hr, beq_self_eq_true r.1⟩

/-! ## Replies in turn -/

/-- **The reply that is due** from a key after some requests: that of its latest registration whose
number is the number of its turns, or else the last one. -/
def Due (registrations : List (ReplyKey × List Reply)) (before : List ReplyKey) (key : ReplyKey)
    (reply : Reply) : Prop :=
  ∃ replies, Latest registrations key replies ∧
    replies[min (turns (keysOf registrations) key before) (replies.length - 1)]? = some reply

/-- **Replies come in turn.**  How some requests are answered after some registrations. -/
structure InTurn (registrations : List (ReplyKey × List Reply)) (requests : List ReplyKey) :
    Prop where
  /-- Each request is answered. -/
  answered : ((registered registrations).answers requests).length = requests.length
  /-- What a key serves gets the reply that is due from it, and there always is one. -/
  served : ∀ before asked after, requests = before ++ asked :: after →
    ∀ key, Serves (keysOf registrations) key asked → ∃ reply, Due registrations before key reply ∧
      ((registered registrations).answers requests)[before.length]? = some reply
  /-- A request with a key of its own gets that of its own key, whatever else is a start of it. -/
  own : ∀ before asked after, requests = before ++ asked :: after → asked ∈ keysOf registrations →
    ∃ reply, Due registrations before asked reply ∧
      ((registered registrations).answers requests)[before.length]? = some reply
  /-- What a key serves is answered as if nothing else were asked for. -/
  apart : ∀ key, ((requests.zip ((registered registrations).answers requests)).filter fun p =>
      Serves (keysOf registrations) key p.1).map (·.2) =
    (registered registrations).answers
      (requests.filter fun asked => Serves (keysOf registrations) key asked)
  /-- What no key serves is not found, -/
  unserved : ∀ before asked after, requests = before ++ asked :: after →
    (∀ key, ¬ Serves (keysOf registrations) key asked) →
    ((registered registrations).answers requests)[before.length]? = some (missing asked.path)
  /-- and nothing else is, unless a registration says so itself. -/
  found : ∀ before asked after, requests = before ++ asked :: after →
    ((registered registrations).answers requests)[before.length]? = some (missing asked.path) →
    (∀ r ∈ registrations, missing asked.path ∉ r.2) →
    ∀ key, ¬ Serves (keysOf registrations) key asked

/-- One reply is due. -/
theorem Due.unique {before : List ReplyKey} {reply reply' : Reply}
    (h : Due registrations before key reply) (h' : Due registrations before key reply') :
    reply = reply' := by
  obtain ⟨replies, hlatest, hreply⟩ := h
  obtain ⟨replies', hlatest', hreply'⟩ := h'
  have hsame := get?_registered_eq_some_iff.mpr hlatest
  rw [get?_registered_eq_some_iff.mpr hlatest', Option.some.injEq] at hsame
  rw [hsame, hreply, Option.some.injEq] at hreply'
  exact hreply'

/-- A reply that is due is one of those that were registered. -/
theorem Due.exists_mem {before : List ReplyKey} {reply : Reply}
    (h : Due registrations before key reply) : ∃ r ∈ registrations, reply ∈ r.2 := by
  obtain ⟨replies, ⟨earlier, later, rfl, -⟩, hreply⟩ := h
  exact ⟨(key, replies), by simp, List.mem_of_getElem? hreply⟩

/-- What a key serves gets the reply that is due from it. -/
theorem exists_due (hfull : ∀ r ∈ registrations, r.2 ≠ []) {before after : List ReplyKey}
    (hclear : ∀ r ∈ before ++ asked :: after, Clear (keysOf registrations) r)
    (hserves : Serves (keysOf registrations) key asked) :
    ∃ reply, Due registrations before key reply ∧
      ((registered registrations).answers (before ++ asked :: after))[before.length]? =
        some reply := by
  obtain ⟨hbefore, hafter⟩ := List.forall_mem_append.mp hclear
  obtain ⟨hkeys, hleft⟩ := (leftBy_nil (registered registrations) (keysOf registrations)).afterAll
    (hasKeys_registered registrations) hbefore
  obtain ⟨replies, hstart, hget⟩ := hleft.exists_get? hkeys hserves.1
  have hlatest := get?_registered_eq_some_iff.mp hstart
  have hne : replies ≠ [] := by
    obtain ⟨earlier, later, hsplit, -⟩ := hlatest
    exact hfull (key, replies) (by simp [hsplit])
  have hlt : min (turns (keysOf registrations) key before) (replies.length - 1) <
      replies.length := by
    have := List.length_pos_iff.mpr hne
    omega
  have hkey := (hkeys.resolve?_eq_some_iff (hafter asked List.mem_cons_self)).mpr hserves
  have hdue := List.getElem?_eq_getElem hlt
  refine ⟨_, ⟨replies, hlatest, hdue⟩, ?_⟩
  rw [getElem?_answers, answer_of_resolve hkey hget, List.nil_append, hdue, Option.getD_some]

/-- **Replies in turn.**  After any registrations, clear requests are answered in turn. -/
theorem inTurn_of_clear (hfull : ∀ r ∈ registrations, r.2 ≠ [])
    (hclear : ∀ asked ∈ requests, Clear (keysOf registrations) asked) :
    InTurn registrations requests where
  answered := length_answers _ _
  served := by
    rintro before asked after rfl key hserves
    exact exists_due hfull hclear hserves
  own := by
    rintro before asked after rfl hown
    exact exists_due hfull hclear (serves_own hown)
  apart := by
    intro key
    exact filter_answers (hasKeys_registered registrations) (hasKeys_registered registrations) rfl
      hclear
  unserved := by
    rintro before asked after rfl hno
    obtain ⟨hbefore, hafter⟩ := List.forall_mem_append.mp hclear
    obtain ⟨hkeys, -⟩ := (leftBy_nil (registered registrations) (keysOf registrations)).afterAll
      (hasKeys_registered registrations) hbefore
    rw [getElem?_answers, hkeys.answer_of_unserved (hafter asked List.mem_cons_self) hno]
  found := by
    rintro before asked after rfl hmissing hscripts key hserves
    obtain ⟨reply, hdue, hreply⟩ := exists_due hfull hclear hserves
    obtain ⟨r, hr, hmem⟩ := hdue.exists_mem
    rw [hmissing, Option.some.injEq] at hreply
    exact hscripts r hr (hreply ▸ hmem)

/-- Registrations of which one path goes on from another, and one key comes twice. -/
def overlapping : List (ReplyKey × List Reply) := [
  (⟨"GET", "/a"⟩, [⟨200, "one"⟩]),
  (⟨"PATCH", "/a"⟩, [⟨409, "two"⟩]),
  (⟨"GET", "/a/b"⟩, [⟨200, "three"⟩]),
  (⟨"GET", "/a"⟩, [⟨200, "four"⟩, ⟨500, "five"⟩])]

/-- Requests that are served by several keys in between each other, and one that none serves. -/
def interleaved : List ReplyKey := [
  ⟨"GET", "/a/x"⟩, ⟨"GET", "/a/b"⟩, ⟨"PATCH", "/a"⟩, ⟨"GET", "/b"⟩, ⟨"GET", "/a"⟩, ⟨"GET", "/ab"⟩]

theorem inTurn_overlapping : (∀ r ∈ overlapping, r.2 ≠ []) ∧
    (∀ asked ∈ interleaved, Clear (keysOf overlapping) asked) ∧
    Due overlapping (interleaved.take 5) ⟨"GET", "/a"⟩ ⟨500, "five"⟩ ∧
    ((registered overlapping).answers interleaved)[5]? = some ⟨500, "five"⟩ ∧
    ((registered overlapping).answers interleaved)[3]? = some (missing "/b") := by
  have hfull : ∀ r ∈ overlapping, r.2 ≠ [] := by decide
  have hclear : ∀ asked ∈ interleaved, Clear (keysOf overlapping) asked := by decide +kernel
  have hturns := inTurn_of_clear hfull hclear
  have hfive : Due overlapping (interleaved.take 5) ⟨"GET", "/a"⟩ ⟨500, "five"⟩ :=
    ⟨_, ⟨overlapping.take 3, [], rfl, nofun⟩, by decide +kernel⟩
  have hnone : ∀ key ∈ keysOf overlapping, ¬ Serves (keysOf overlapping) key ⟨"GET", "/b"⟩ := by
    decide +kernel
  obtain ⟨reply, hdue, hreply⟩ := hturns.served (interleaved.take 5) ⟨"GET", "/ab"⟩ [] rfl
    ⟨"GET", "/a"⟩ (by decide +kernel)
  refine ⟨hfull, hclear, hfive, hdue.unique hfive ▸ hreply, ?_⟩
  exact hturns.unserved (interleaved.take 3) ⟨"GET", "/b"⟩ (interleaved.drop 4) rfl
    fun key hserves => hnone key hserves.1 hserves

end ReplyBook

end FaultInjection.Kube
