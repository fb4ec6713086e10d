import FaultInjection.Proofs.Number.Values
import FaultInjection.Proofs.Results
import FaultInjection.Proofs.Yaml.Spellings
import FaultInjection.Yaml.Decode
import Mathlib.Data.List.Forall2

/-!
# What nodes are read as

A scalar that stands for a text, a whole number or a floating-point number is read as that,
whether its type is known beforehand or it is buffered first.  Reading it leaves alone the aliases
that may still be followed, so that it is a pure step of a longer reading.
-/

namespace FaultInjection.Number

/-- **Numerically the same**: the same finite value, or the same infinity. -/
def Binary64.Same (x y : Binary64) : Prop :=
  (∃ r, x.value? = some r ∧ y.value? = some r) ∨
    ∃ negative, x = .infinite negative ∧ y = .infinite negative

end FaultInjection.Number

namespace FaultInjection.Yaml

open Number

/-! ## Scalars -/

/-- **A scalar stands for something.**  It has no tag that only its document knows. -/
def StandsFor (node : Node) (atom : Atom) : Prop :=
  ∃ tag style text, node = .scalar tag style text ∧ isLocalTag tag = false ∧
    atomOfScalar tag style text = .ok atom

/-- A scalar that stands for a text. -/
def IsText (node : Node) (s : String) : Prop := StandsFor node (.text s)

/-- A plain scalar that stands for a whole number, with a minus sign only if it is negative. -/
def IsWhole (node : Node) (n : ℤ) : Prop :=
  ∃ text : String, node = .scalar none .plain text ∧ atomOf text = .whole n ∧
    (text.toList.head? = some '-' → n < 0)

/-- A scalar that stands for a number that is numerically the same.  A whole number will do, if it
is not too wide. -/
def IsReal (node : Node) (x : Binary64) : Prop :=
  (∃ y, StandsFor node (.real y) ∧ y.Same x) ∨
    ∃ n, StandsFor node (.whole n) ∧ isWide n = false ∧ (Binary64.ofInt n).Same x

/-- A sequence of scalars that stand for texts. -/
def IsTexts (node : Node) (texts : List String) : Prop :=
  ∃ tag items, node = .sequence tag items ∧ isLocalTag tag = false ∧
    List.Forall₂ IsText items texts

variable {document : Document} {node : Node} {s : String} {n : ℤ}

theorem IsWhole.standsFor (h : IsWhole node n) : StandsFor node (.whole n) := by
  obtain ⟨text, rfl, hatom, -⟩ := h
  exact ⟨none, .plain, text, rfl, rfl, congrArg Except.ok hatom⟩

/-- A plain scalar that stands for a text stands for its own text. -/
theorem atomOf_eq_text {text : String} (h : atomOf text = .text s) : text = s := by
  simp only [atomOf] at h
  split at h
  · cases h
  · split at h
    · cases h
    · split at h
      · cases h
      · split at h
        · cases h
        · exact Atom.text.inj h

theorem atomOf_eq_whole {text : String} (h : atomOf text = .whole n) :
    readWhole text.toList = some n := by
  simp only [atomOf] at h
  split at h
  · cases h
  · split at h
    · cases h
    · split at h
      · next m hm => rw [hm, Atom.whole.inj h]
      · split at h <;> cases h

/-- So does any other scalar, since a kind that a tag demands is not that of texts. -/
theorem atomOfScalar_eq_text {tag : Option String} {style : Style} {text : String}
    (h : atomOfScalar tag style text = .ok (.text s)) : text = s := by
  have hplain : ∀ {plain : Prop} [Decidable plain],
      (if plain then atomOf text else .text text) = Atom.text s → text = s := by
    intro plain _ hatom
    split at hatom
    · exact atomOf_eq_text hatom
    · exact Atom.text.inj hatom
  simp only [atomOfScalar] at h
  split at h
  · exact hplain (Except.ok.inj h)
  · split at h
    · cases hread : readBool text <;> simp [hread] at h
    · split at h
      · cases hread : readWhole text.toList <;> simp [hread] at h
      · split at h
        · cases hread : readReal text.toList <;> simp [hread] at h
        · split at h
          · cases hread : isNull text <;> simp [hread] at h
          · exact hplain (Except.ok.inj h)

namespace Document

/-! ## One step -/

@[simp] theorem follow_scalar (tag : Option String) (style : Style) (text : String) :
    document.follow (.scalar tag style text) = pure (.scalar tag style text) := rfl

@[simp] theorem follow_sequence (tag : Option String) (items : List Node) :
    document.follow (.sequence tag items) = pure (.sequence tag items) := rfl

@[simp] theorem follow_mapping (tag : Option String) (entries : List (Node × Node)) :
    document.follow (.mapping tag entries) = pure (.mapping tag entries) := rfl

/-- Buffering a node is following it and then buffering what is in it. -/
theorem buffer_succ (depth : ℕ) (node : Node) : document.buffer (depth + 1) node = (do
    match ← document.follow node with
    | .scalar tag style text => return .atom (← bufferScalar "any value" tag style text)
    | .sequence tag items =>
      if isLocalTag tag then throw .malformed
      else return .list (← items.mapM (document.buffer depth))
    | .mapping tag entries =>
      if isLocalTag tag then throw .malformed
      else return .table (← entries.mapM fun (k, v) => do
        let key ← document.buffer depth k
        return (key, ← document.buffer depth v))
    | _ => throw .malformed) := by
  delta buffer
  refine bind_congr fun found => ?_
  cases found <;> rfl

/-- Many pure steps are one. -/
theorem mapM_eq_pure {m : Type → Type} [Monad m] [LawfulMonad m] {α β : Type} {f : α → m β}
    {xs : List α} {ys : List β} (h : List.Forall₂ (fun x y => f x = pure y) xs ys) :
    xs.mapM f = pure ys := by
  induction h with
  | nil => rfl
  | cons hx _ ih => rw [List.mapM_cons, hx, pure_bind, ih, pure_bind]

theorem mapM_bind_eq {m : Type → Type} [Monad m] [LawfulMonad m] {α β γ : Type} {f : α → m β}
    {g : List β → m γ} {xs : List α} {ys : List β}
    (h : List.Forall₂ (fun x y => f x = pure y) xs ys) : (xs.mapM f >>= g) = g ys := by
  rw [mapM_eq_pure h, pure_bind]

/-! ## Known types -/

theorem readText_of_isText (h : IsText node s) (expected : String) :
    document.readText expected node = pure s := by
  obtain ⟨tag, style, text, rfl, -, hatom⟩ := h
  rw [← atomOfScalar_eq_text hatom]
  rfl

theorem readNumber_of_isWhole (h : IsWhole node n) {read : List Char → Option Int}
    (hread : ∀ s, readWhole s = some n → (s.head? = some '-' → n < 0) → read s = some n)
    (expected : String) : document.readNumber expected read node = pure n := by
  obtain ⟨text, rfl, hatom, hsign⟩ := h
  have hn := hread text.toList (atomOf_eq_whole hatom) hsign
  rw [readNumber, readSpelling, follow_scalar, pure_bind]
  simp only [spells, hn]
  rfl

theorem readSigned_of_isWhole {range : IntegerRange} (h : IsWhole node n) (hn : range.Contains n)
    (hbelow : range.below ≠ 0) (expected : String) :
    document.readNumber expected (readSigned range) node = pure n :=
  readNumber_of_isWhole h (fun _ hs _ => readSigned_of_readWhole hs hn hbelow) expected

theorem readUnsigned_of_isWhole {range : IntegerRange} (h : IsWhole node n) (hn : range.Contains n)
    (hpos : 0 ≤ n) (expected : String) :
    document.readNumber expected (readUnsigned range) node = pure n := by
  refine readNumber_of_isWhole h (fun s hs hsign => ?_) expected
  exact readUnsigned_of_readWhole hs hn fun hminus => absurd (hsign hminus) (by omega)

/-! ## Buffered nodes -/

theorem bufferScalar_of_checked {tag : Option String} {style : Style} {text expected : String}
    {atom : Atom} (htag : isLocalTag tag = false) (hstands : atomOfScalar tag style text = .ok atom)
    (hatom : atom.checked expected = .ok atom) :
    bufferScalar expected tag style text = .ok atom := by
  rw [bufferScalar, htag, hstands]
  exact hatom

theorem buffer_of_standsFor {atom : Atom} (h : StandsFor node atom)
    (hatom : atom.checked "any value" = .ok atom) (depth : ℕ) :
    document.buffer (depth + 1) node = pure (.atom atom) := by
  obtain ⟨tag, style, text, rfl, htag, hstands⟩ := h
  rw [buffer_succ, follow_scalar, pure_bind]
  simp only [bufferScalar_of_checked htag hstands hatom]
  rfl

theorem buffer_of_isTexts {texts : List String} (h : IsTexts node texts) (depth : ℕ) :
    document.buffer (depth + 2) node = pure (.list (texts.map fun s => .atom (.text s))) := by
  obtain ⟨tag, items, rfl, htag, hitems⟩ := h
  have hread : List.Forall₂ (fun item content => document.buffer (depth + 1) item = pure content)
      items (texts.map fun s => .atom (.text s)) := by
    rw [List.forall₂_map_right_iff]
    exact hitems.imp fun _ _ hitem => buffer_of_standsFor hitem rfl depth
  rw [buffer_succ, follow_sequence, pure_bind]
  simp only [htag, mapM_eq_pure hread]
  rfl

end Document

theorem Content.readTexts_texts (texts : List String) :
    (Content.list (texts.map fun s => .atom (.text s))).readTexts = .ok texts := by
  refine Document.mapM_eq_pure (m := Except DecodeError) ?_
  rw [List.forall₂_map_left_iff, List.forall₂_same]
  exact fun _ _ => rfl

/-! ## Entries -/

/-- **Entries tell of fields**, of each one once and in any order.  Other entries may come in
between. -/
inductive Tells {Field : Type} (told : Field → Node × Node → Prop) (other : Node × Node → Prop) :
    List Field → List (Node × Node) → Prop
  | nil : Tells told other [] []
  | field {f : Field} {fields : List Field} {entry : Node × Node} {entries : List (Node × Node)} :
      told f entry → f ∉ fields → Tells told other fields entries →
      Tells told other (f :: fields) (entry :: entries)
  | other {fields : List Field} {entry : Node × Node} {entries : List (Node × Node)} :
      other entry → Tells told other fields entries → Tells told other fields (entry :: entries)

theorem Tells.nodup {Field : Type} {told : Field → Node × Node → Prop} {other : Node × Node → Prop}
    {fields : List Field} {entries : List (Node × Node)} (h : Tells told other fields entries) :
    fields.Nodup := by
  induction h with
  | nil => exact List.nodup_nil
  | field _ hf _ ih => exact List.nodup_cons.mpr ⟨hf, ih⟩
  | other _ _ ih => exact ih

section

variable {Field : Type} {f : Field} {fields seen : List Field}

/-- What comes after a field is not among what was seen up to it. -/
theorem not_mem_seen (hf : f ∉ fields) (hseen : ∀ g ∈ f :: fields, g ∉ seen) :
    ∀ g ∈ fields, g ∉ f :: seen := by
  intro g hg hmem
  rcases List.mem_cons.mp hmem with rfl | hmem
  · exact hf hg
  · exact hseen g (List.mem_cons_of_mem f hg) hmem

/-- A step that settles one field, and keeps the others, leaves only the later ones to be
settled. -/
theorem mem_or_of_step {before after : Field → Prop} (hf : after f)
    (hkeeps : ∀ g ≠ f, before g → after g) {g : Field} (h : g ∈ f :: fields ∨ before g) :
    g ∈ fields ∨ after g := by
  by_cases hsame : g = f
  · exact Or.inr (hsame ▸ hf)
  · exact h.imp (fun hmem => (List.mem_cons.mp hmem).resolve_left hsame) (hkeeps g hsame)

end

/-! ## Aliases -/

namespace Document

/-- **A node leads to another one**, which is no alias: itself, or what the nodes lead to that its
alias stands for. -/
inductive Leads (document : Document) : Node → Node → Prop
  | here {node : Node} : (∀ number, node ≠ .alias number) → Leads document node node
  | through {number : ℕ} {found target : Node} : document.named.lookup number = some found →
      Leads document found target → Leads document (.alias number) target

/-- A node leads to a scalar with a text, whatever that stands for. -/
def Says (document : Document) (node : Node) (text : String) : Prop :=
  ∃ tag style, document.Leads node (.scalar tag style text)

theorem Leads.eq {target other : Node} (h : document.Leads node target)
    (hother : document.Leads node other) : target = other := by
  induction h with
  | here hno =>
      cases hother with
      | here => rfl
      | through => exact absurd rfl (hno _)
  | through hfound _ ih =>
      cases hother with
      | here hno => exact absurd rfl (hno _)
      | through hfound' hleads =>
          rw [hfound, Option.some.injEq] at hfound'
          exact ih (hfound' ▸ hleads)

theorem Says.eq {text other : String} (h : document.Says node text)
    (hother : document.Says node other) : text = other := by
  obtain ⟨tag, style, h⟩ := h
  obtain ⟨tag', style', hother⟩ := hother
  have heq := h.eq hother
  cases heq
  rfl

variable {α β : Type} {left left' : ℕ} {found target : Node}

theorem run_bind_eq_ok_iff {x : Reading α} {f : α → Reading β} {b : β} :
    (x >>= f).run left = .ok (b, left') ↔
      ∃ a mid, x.run left = .ok (a, mid) ∧ (f a).run mid = .ok (b, left') := by
  rw [StateT.run_bind, bind_eq_ok_iff, Prod.exists]

theorem run_pure_eq_ok_iff {a b : α} :
    (pure a : Reading α).run left = .ok (b, left') ↔ a = b ∧ left = left' := by
  rw [StateT.run_pure]
  show Except.ok (a, left) = Except.ok (b, left') ↔ _
  rw [Except.ok.injEq, Prod.mk.injEq]

theorem run_throw_ne_ok {e : DecodeError} {p : α × ℕ} :
    (throw e : Reading α).run left ≠ .ok p := by
  rintro ⟨⟩

theorem run_liftM_eq_ok_iff {x : Except DecodeError α} {a : α} :
    (liftM x : Reading α).run left = .ok (a, left') ↔ x = .ok a ∧ left = left' := by
  cases x with
  | error e =>
      constructor
      · rintro ⟨⟩
      · rintro ⟨⟨⟩, -⟩
  | ok b =>
      rw [Except.ok.injEq]
      exact run_pure_eq_ok_iff

/-- Following a node gives the node itself, or what its alias stands for. -/
theorem eq_of_follow (h : (document.follow node).run left = .ok (found, left')) :
    ((∀ number, node ≠ .alias number) ∧ node = found) ∨
      ∃ number, node = .alias number ∧ found = (document.named.lookup number).getD .cut := by
  cases node with
  | «alias» number =>
      cases left with
      | zero => cases h
      | succ left =>
          have hfound : (Except.ok ((document.named.lookup number).getD .cut, left) :
              Except DecodeError (Node × ℕ)) = .ok (found, left') := h
          cases hfound
          exact Or.inr ⟨number, rfl, rfl⟩
  | scalar | sequence | mapping | cut =>
      refine Or.inl ⟨fun _ hnode => ?_, (run_pure_eq_ok_iff.mp h).1⟩
      cases hnode

/-- Following a node comes nearer to what it leads to, -/
theorem leads_of_follow (h : (document.follow node).run left = .ok (found, left'))
    (hleads : document.Leads node target) : document.Leads found target := by
  rcases eq_of_follow h with ⟨-, rfl⟩ | ⟨number, rfl, rfl⟩
  · exact hleads
  · cases hleads with
    | here hno => exact absurd rfl (hno number)
    | through hfound hleads => rwa [hfound, Option.getD_some]

/-- and it leads nowhere else. -/
theorem leads_of_leads_follow (h : (document.follow node).run left = .ok (found, left'))
    (hleads : document.Leads found target) (hcut : target ≠ .cut) : document.Leads node target := by
  rcases eq_of_follow h with ⟨-, rfl⟩ | ⟨number, rfl, rfl⟩
  · exact hleads
  · cases hlookup : document.named.lookup number with
    | none =>
        rw [hlookup] at hleads
        cases hleads
        exact absurd rfl hcut
    | some found =>
        rw [hlookup] at hleads
        exact .through hlookup hleads

/-- What is read as the text of a node is what it says. -/
theorem says_of_readText {expected text : String}
    (h : (document.readText expected node).run left = .ok (text, left')) :
    document.Says node text := by
  obtain ⟨found, mid, hfollow, hread⟩ := run_bind_eq_ok_iff.mp h
  cases found with
  | scalar tag style other =>
      obtain ⟨rfl, -⟩ := run_pure_eq_ok_iff.mp hread
      have hhere : document.Leads (.scalar tag style other) (.scalar tag style other) :=
        .here fun _ hnode => by cases hnode
      exact ⟨tag, style, leads_of_leads_follow hfollow hhere fun hcut => by cases hcut⟩
  | sequence | mapping | «alias» | cut => exact absurd hread run_throw_ne_ok

/-- Where a node is read that leads to a mapping, it is the mapping that is read. -/
theorem eq_mapping_of_follow {tag : Option String} {entries : List (Node × Node)}
    (h : (document.follow node).run left = .ok (found, left'))
    (hleads : document.Leads node (.mapping tag entries)) :
    found = .mapping tag entries ∨ ∃ number, found = .alias number := by
  cases leads_of_follow h hleads with
  | here => exact Or.inl rfl
  | through => exact Or.inr ⟨_, rfl⟩

end Document

end FaultInjection.Yaml
