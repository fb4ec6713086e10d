import FaultInjection.Experiment
import FaultInjection.Proofs.Labels.Reading
import FaultInjection.Proofs.Results
import FaultInjection.Proofs.Search
import Mathlib.Logic.Relation

/-!
# The grammar of labels

A text spells labels exactly if all its pieces are pairs of a key and a value (`IsPair`).  The first
piece that is none is named, and of several values of one key the last one counts.  Those two rules
run through the pieces in opposite directions.  More commas and other blanks, where they only
separate, make no difference (`Respaced`).  All of this together is `ReadBy`, and it holds of every
text (`readBy_pieces`).
-/

namespace FaultInjection

open Text

namespace Labels

/-! ## Pairs -/

/-- **A piece spells a pair**: the trimmed texts before and after its first equals sign, of which
the one before it is not blank. -/
def Spells (piece : List Char) (pair : String × String) : Prop :=
  ∃ key value, piece = key ++ '=' :: value ∧ '=' ∉ key ∧ ¬ Blank key ∧
    pair = (String.ofList (trim key), String.ofList (trim value))

/-- A piece that spells some pair. -/
def IsPair (piece : List Char) : Prop := ∃ pair, Spells piece pair

theorem readPair_eq_some_iff_spells {piece : List Char} {pair : String × String} :
    readPair piece = some pair ↔ Spells piece pair := by
  simp only [readPair_eq_some_iff, Spells, ne_eq, trim_eq_nil_iff]

theorem readPair_eq_none_iff {piece : List Char} : readPair piece = none ↔ ¬ IsPair piece := by
  simp only [IsPair, ← readPair_eq_some_iff_spells, ← Option.isSome_iff_exists,
    Bool.not_eq_true, Option.isSome_eq_false_iff, Option.isNone_iff_eq_none]

/-! ## What a text spells -/

variable {raw : String} {labels : Labels} {ps : List (List Char)}

/-- Pieces are read as pairs exactly if every one of them is a pair. -/
theorem map_readPair_eq_iff {pairs : List (String × String)} :
    ps.map readPair = pairs.map some ↔ (∀ p ∈ ps, IsPair p) ∧ pairs = ps.filterMap readPair := by
  induction ps generalizing pairs with
  | nil => cases pairs <;> simp
  | cons p ps ih =>
      rw [List.forall_mem_cons]
      cases hp : readPair p with
      | none =>
          have hnot : ¬ IsPair p := readPair_eq_none_iff.mp hp
          cases pairs <;> simp [hp, hnot]
      | some pair =>
          have hpair : IsPair p := ⟨pair, readPair_eq_some_iff_spells.mp hp⟩
          rw [List.filterMap_cons_some hp, List.map_cons, hp]
          cases pairs with
          | nil => simp
          | cons first pairs =>
              rw [List.map_cons, List.cons.injEq, List.cons.injEq, ih, Option.some.injEq,
                eq_comm (a := pair)]
              tauto

/-- A text whose pieces are all pairs spells them, and no other text spells anything. -/
theorem read_eq_ok_iff_forall : read raw = .ok labels ↔
    (∀ p ∈ pieces raw.toList, IsPair p) ∧
      labels = ofList ((pieces raw.toList).filterMap readPair) := by
  simp only [read_eq_ok_iff, map_readPair_eq_iff, and_assoc, exists_and_left, exists_eq_left]

/-- The piece that is refused is the first that is no pair. -/
theorem readPieces_eq_error_iff {start : Labels} {text : String} :
    readPieces start ps = .error text ↔
      ∃ p, FirstFailing IsPair ps p ∧ text = String.ofList p := by
  induction ps generalizing start with
  | nil => simp [readPieces, not_firstFailing_nil]
  | cons p ps ih =>
      simp only [firstFailing_cons_iff]
      cases hp : readPair p with
      | none =>
          have hnot : ¬ IsPair p := readPair_eq_none_iff.mp hp
          simp [readPieces, hp, hnot, eq_comm]
      | some pair =>
          have hpair : IsPair p := ⟨pair, readPair_eq_some_iff_spells.mp hp⟩
          simp [readPieces, hp, hpair, ih]

/-! ## Separators -/

/-- A text with blanks around it. -/
def Padded (s t : List Char) : Prop := ∃ a b, Blank a ∧ Blank b ∧ t = a ++ s ++ b

/-- **The same text with other separators.**  Each step adds a comma, or it puts other blanks around
a piece, or around the key and the value of a piece. -/
inductive Respaced : List Char → List Char → Prop
  /-- A comma is added at the start, -/
  | start (s : List Char) : Respaced s (',' :: s)
  /-- at the end, -/
  | finish (s : List Char) : Respaced s (s ++ [','])
  /-- or next to a comma. -/
  | beside (s t : List Char) : Respaced (s ++ ',' :: t) (s ++ ',' :: ',' :: t)
  /-- There are other blanks around a piece, -/
  | around {s t t' : List Char} : ',' ∉ s → Padded s t → Padded s t' → Respaced t t'
  /-- or around a key and a value. -/
  | inside {key value k k' v v' : List Char} : ',' ∉ key → '=' ∉ key → ',' ∉ value →
      Padded key k → Padded key k' → Padded value v → Padded value v' →
      Respaced (k ++ '=' :: v) (k' ++ '=' :: v')
  /-- Something is done behind a comma, -/
  | behind (s : List Char) {t t' : List Char} : Respaced t t' →
      Respaced (s ++ ',' :: t) (s ++ ',' :: t')
  /-- or ahead of one. -/
  | ahead {s s' : List Char} (t : List Char) : Respaced s s' →
      Respaced (s ++ ',' :: t) (s' ++ ',' :: t)

theorem Padded.not_mem {c : Char} {s t : List Char} (h : Padded s t) (hc : isBlank c = false)
    (hs : c ∉ s) : c ∉ t := by
  obtain ⟨a, b, ha, hb, rfl⟩ := h
  have hblank : ∀ x, Blank x → c ∉ x := by
    intro x hx hmem
    rw [hx c hmem] at hc
    cases hc
  simp [hs, hblank a ha, hblank b hb]

theorem Padded.trim_eq {s t : List Char} (h : Padded s t) : trim t = trim s := by
  obtain ⟨a, b, ha, hb, rfl⟩ := h
  exact trim_around ha hb s

/-- The blanks around a key and around a value are not read. -/
theorem readPair_trim {k v : List Char} (h : '=' ∉ k) : readPair (trim (k ++ '=' :: v)) =
    if trim k = [] then none else some (String.ofList (trim k), String.ofList (trim v)) := by
  have hstart : '=' ∉ trimStart k := fun hmem => h ((trimStart_isSuffix k).mem hmem)
  have hcut : cutAt '=' (trimStart k ++ '=' :: trimEnd v) = some (trimStart k, trimEnd v) :=
    cutAt_eq_some_iff.mpr ⟨rfl, hstart⟩
  rw [trim_append_cons (by decide), readPair, hcut]
  simp only [trim_trimStart, trim_trimEnd]

theorem pieces_of_equals {k v : List Char} (hk : ',' ∉ k) (hv : ',' ∉ v) :
    pieces (k ++ '=' :: v) = [trim (k ++ '=' :: v)] := by
  have hcomma : ',' ∉ k ++ '=' :: v := by simp [hk, hv]
  rw [pieces_of_not_mem hcomma, List.filter_cons_of_pos]
  · rfl
  · rw [trim_append_cons (by decide)]
    simp

/-- **One step** keeps what the pieces are read as. -/
theorem Respaced.map_readPair {s t : List Char} (h : Respaced s t) :
    (pieces s).map readPair = (pieces t).map readPair := by
  induction h with
  | start s => rw [pieces_comma_cons]
  | finish s => rw [pieces_append_comma, pieces_nil, List.append_nil]
  | beside s t => rw [pieces_append_comma, pieces_append_comma, pieces_comma_cons]
  | around hs ht ht' =>
      rw [pieces_of_not_mem (ht.not_mem (by decide) hs),
        pieces_of_not_mem (ht'.not_mem (by decide) hs), ht.trim_eq, ht'.trim_eq]
  | inside hkey hequals hvalue hk hk' hv hv' =>
      rw [pieces_of_equals (hk.not_mem (by decide) hkey) (hv.not_mem (by decide) hvalue),
        pieces_of_equals (hk'.not_mem (by decide) hkey) (hv'.not_mem (by decide) hvalue),
        List.map_singleton, List.map_singleton, readPair_trim (hk.not_mem (by decide) hequals),
        readPair_trim (hk'.not_mem (by decide) hequals), hk.trim_eq, hk'.trim_eq, hv.trim_eq,
        hv'.trim_eq]
  | behind s _ ih =>
      rw [pieces_append_comma, pieces_append_comma, List.map_append, List.map_append, ih]
  | ahead t _ ih =>
      rw [pieces_append_comma, pieces_append_comma, List.map_append, List.map_append, ih]

/-- **Many steps** do so too. -/
theorem map_readPair_of_respaced {s t : List Char} (h : Relation.ReflTransGen Respaced s t) :
    (pieces s).map readPair = (pieces t).map readPair := by
  induction h with
  | refl => rfl
  | tail _ hstep ih => rw [ih, hstep.map_readPair]

/-! ## Texts by their pieces -/

/-- **A text is read by its pieces.** -/
structure ReadBy (raw : String) (ps : List (List Char)) : Prop where
  /-- The pieces are the trimmed parts between the commas, without the blank ones. -/
  cut : ∃ parts, parts ≠ [] ∧ (∀ part ∈ parts, ',' ∉ part) ∧ joinWith ',' parts = raw.toList ∧
    ps = (parts.map trim).filter (· ≠ [])
  /-- Labels are read exactly if every piece is a pair. -/
  accepted : (∃ labels, read raw = .ok labels) ↔ ∀ p ∈ ps, IsPair p
  /-- Otherwise the first piece that is none is named. -/
  refused : ∀ message, (read raw).mapError ConfigError.pieceMessage = .error message ↔
    ∃ p, FirstFailing IsPair ps p ∧ message = "expected key=value, got '" ++ String.ofList p ++ "'"
  /-- The keys of the labels are those of the pieces, -/
  keys : ∀ labels, read raw = .ok labels → ∀ key,
    (labels.get? key).isSome ↔ ∃ p ∈ ps, ∃ value, Spells p (key, value)
  /-- and the last piece of a key says what its value is. -/
  values : ∀ labels, read raw = .ok labels → ∀ key value,
    labels.get? key = some value ↔ ∃ before p after, ps = before ++ p :: after ∧
      Spells p (key, value) ∧ ∀ q ∈ after, ∀ other, ¬ Spells q (key, other)
  /-- Other separators make no difference to the labels. -/
  respaced : ∀ raw', Relation.ReflTransGen Respaced raw.toList raw'.toList →
    ∀ labels, read raw = .ok labels ↔ read raw' = .ok labels

/-- **The grammar of labels**: every text is read by its pieces. -/
theorem readBy_pieces (raw : String) : ReadBy raw (pieces raw.toList) := by
  constructor
  · exact ⟨splitAt ',' raw.toList, splitAt_ne_nil _ _, fun _ => not_mem_of_mem_splitAt,
      joinWith_splitAt _ _, rfl⟩
  · simp only [read_eq_ok_iff_forall, exists_and_left, exists_eq, and_true]
  · intro message
    simp only [mapError_eq_error_iff, read, readPieces_eq_error_iff]
    constructor
    · rintro ⟨_, ⟨p, hp, rfl⟩, rfl⟩
      exact ⟨p, hp, rfl⟩
    · rintro ⟨p, hp, rfl⟩
      exact ⟨_, ⟨p, hp, rfl⟩, rfl⟩
  · intro labels h key
    rw [(read_eq_ok_iff_forall.mp h).2]
    simp only [← readPair_eq_some_iff_spells]
    exact Keyed.isSome_get?_ofList_filterMap
  · intro labels h key value
    rw [(read_eq_ok_iff_forall.mp h).2]
    simp only [← readPair_eq_some_iff_spells]
    exact Keyed.get?_ofList_filterMap
  · intro raw' h labels
    rw [read_eq_ok_iff, read_eq_ok_iff, map_readPair_of_respaced h]

/-- The first piece that is no pair is named, though a later one has no equals sign either. -/
example : (read "app=shop,, =x ,tier").mapError ConfigError.pieceMessage =
    .error "expected key=value, got '=x'" := by decide +kernel

/-- Of two values of one key the last one counts, and it may hold equals signs. -/
example : read ",app=shop, app = a=b ," = .ok (.ofList [("app", "a=b")]) := by decide +kernel

end Labels

end FaultInjection
