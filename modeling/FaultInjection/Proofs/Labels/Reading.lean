import FaultInjection.Proofs.Text.Keyed
import FaultInjection.Proofs.Text.Pieces
import FaultInjection.Proofs.Text.Trim
import FaultInjection.Selector

/-!
# Labels read back

The text that asks a cluster for pods with some labels is one that the labels can be read from.
Labels come through unchanged if their keys and values hold no separator and are not padded
(`Labels.Plain`), and only such labels are ever read from a text (`Filter.faithful`).
-/

namespace FaultInjection

open Text

namespace Labels

theorem ext_pairs {a b : Labels} (h : a.pairs = b.pairs) : a = b := by
  cases a
  cases b
  simp_all

theorem ofList_pairs (labels : Labels) : ofList labels.pairs = labels :=
  ext_pairs (Keyed.ofList_of_ascending labels.ascending)

/-! ## What a text spells -/

/-- A piece is a pair exactly if there is an equals sign in it, and the key is not blank. -/
theorem readPair_eq_some_iff {piece : List Char} {pair : String × String} :
    readPair piece = some pair ↔ ∃ key value, piece = key ++ '=' :: value ∧ '=' ∉ key ∧
      trim key ≠ [] ∧ pair = (String.ofList (trim key), String.ofList (trim value)) := by
  unfold readPair
  cases hcut : cutAt '=' piece with
  | none =>
      rw [cutAt_eq_none_iff] at hcut
      constructor
      · intro h
        cases h
      · rintro ⟨key, value, rfl, -⟩
        simp at hcut
  | some parts =>
      obtain ⟨key, value⟩ := parts
      simp only [Option.ite_none_left_eq_some, Option.some.injEq]
      constructor
      · rintro ⟨hkey, rfl⟩
        obtain ⟨hpiece, hequals⟩ := cutAt_eq_some_iff.mp hcut
        exact ⟨key, value, hpiece, hequals, hkey, rfl⟩
      · rintro ⟨key', value', hpiece, hequals, hkey, rfl⟩
        -- There is only one first equals sign.
        have hsame : (key, value) = (key', value') := by
          rw [cutAt_eq_some_iff.mpr ⟨hpiece, hequals⟩] at hcut
          exact (Option.some.inj hcut).symm
        cases hsame
        exact ⟨hkey, rfl⟩

theorem readPieces_eq_ok_iff {start labels : Labels} {ps : List (List Char)} :
    readPieces start ps = .ok labels ↔ ∃ pairs : List (String × String),
      ps.map readPair = pairs.map some ∧
        labels.pairs = pairs.foldl (fun acc e => Keyed.insert e.1 e.2 acc) start.pairs := by
  induction ps generalizing start with
  | nil =>
      rw [readPieces, Except.ok.injEq]
      constructor
      · rintro rfl
        exact ⟨[], rfl, rfl⟩
      · rintro ⟨pairs, hpairs, hlabels⟩
        have hnil : pairs = [] := List.map_eq_nil_iff.mp hpairs.symm
        rw [hnil] at hlabels
        exact (ext_pairs hlabels).symm
  | cons p ps ih =>
      rw [readPieces, List.map_cons]
      cases hp : readPair p with
      | none =>
          constructor
          · intro h
            cases h
          · rintro ⟨pairs, hpairs, -⟩
            cases pairs <;> cases hpairs
      | some pair =>
          show readPieces (start.insert pair.1 pair.2) ps = .ok labels ↔ _
          rw [ih]
          constructor
          · rintro ⟨pairs, hpairs, hlabels⟩
            exact ⟨pair :: pairs, by rw [hpairs, List.map_cons], hlabels⟩
          · rintro ⟨pairs, hpairs, hlabels⟩
            cases pairs with
            | nil => cases hpairs
            | cons first pairs =>
                obtain ⟨hfirst, hrest⟩ := List.cons.inj hpairs
                cases hfirst
                exact ⟨pairs, hrest, hlabels⟩

/-- **A text spells labels** exactly if all its pieces are pairs, and then the labels are these. -/
theorem read_eq_ok_iff {raw : String} {labels : Labels} :
    read raw = .ok labels ↔ ∃ pairs : List (String × String),
      (pieces raw.toList).map readPair = pairs.map some ∧ labels = ofList pairs := by
  rw [read, readPieces_eq_ok_iff]
  constructor
  · rintro ⟨pairs, hpairs, hlabels⟩
    exact ⟨pairs, hpairs, ext_pairs hlabels⟩
  · rintro ⟨pairs, hpairs, rfl⟩
    exact ⟨pairs, hpairs, rfl⟩

/-! ## Plain labels -/

/-- A key and a value that hold no separator and are not padded.  A value may hold equals signs, and
it may be empty. -/
structure PlainPair (pair : String × String) : Prop where
  keyed : pair.1 ≠ ""
  keyComma : ',' ∉ pair.1.toList
  keyEquals : '=' ∉ pair.1.toList
  keyUnpadded : Unpadded pair.1.toList
  valueComma : ',' ∉ pair.2.toList
  valueUnpadded : Unpadded pair.2.toList

/-- Labels of which every key and every value is plain. -/
def Plain (labels : Labels) : Prop := ∀ pair ∈ labels.pairs, PlainPair pair

section

variable {pair : String × String}

theorem toList_pairText (pair : String × String) :
    (pairText pair).toList = pair.1.toList ++ '=' :: pair.2.toList := by
  simp [pairText]

/-- A plain pair is read back from its text. -/
theorem PlainPair.readPair_pairText (h : PlainPair pair) :
    readPair (pairText pair).toList = some pair := by
  have hkey : trim pair.1.toList = pair.1.toList := trim_eq_self_iff.mpr h.keyUnpadded
  have hvalue : trim pair.2.toList = pair.2.toList := trim_eq_self_iff.mpr h.valueUnpadded
  refine readPair_eq_some_iff.mpr
    ⟨pair.1.toList, pair.2.toList, toList_pairText pair, h.keyEquals, ?_, ?_⟩
  · rw [hkey, Ne, String.toList_eq_nil_iff]
    exact h.keyed
  · rw [hkey, hvalue, String.ofList_toList, String.ofList_toList]

theorem pairText_ne_empty (pair : String × String) : pairText pair ≠ "" := by
  rw [Ne, ← String.toList_eq_nil_iff, toList_pairText]
  simp

theorem PlainPair.comma_not_mem (h : PlainPair pair) : ',' ∉ (pairText pair).toList := by
  rw [toList_pairText]
  simp [h.keyComma, h.valueComma]

theorem PlainPair.unpadded_pairText (h : PlainPair pair) : Unpadded (pairText pair).toList := by
  rw [toList_pairText]
  constructor
  · intro c hc
    obtain ⟨first, rest, hkey⟩ := List.exists_cons_of_ne_nil
      (mt String.toList_eq_nil_iff.mp h.keyed)
    apply h.keyUnpadded.1
    rw [hkey] at hc ⊢
    exact hc
  · -- The text ends with the value or, where that is empty, with the equals sign.
    intro c hc
    rw [List.getLast?_append, List.getLast?_cons] at hc
    cases hlast : pair.2.toList.getLast? with
    | none =>
        rw [hlast] at hc
        cases hc
        decide
    | some last =>
        rw [hlast] at hc
        cases hc
        exact h.valueUnpadded.2 last hlast

/-- What is read from a piece without a comma is plain. -/
theorem plainPair_of_readPair {piece : List Char} (hcomma : ',' ∉ piece)
    (h : readPair piece = some pair) : PlainPair pair := by
  obtain ⟨key, value, rfl, hequals, hkey, rfl⟩ := readPair_eq_some_iff.mp h
  simp only [List.mem_append, List.mem_cons, not_or] at hcomma
  constructor
  · rwa [Ne, String.ofList_eq_empty_iff]
  all_goals simp only [String.toList_ofList]
  · exact fun hmem => hcomma.1 (mem_of_mem_trim hmem)
  · exact fun hmem => hequals (mem_of_mem_trim hmem)
  · exact unpadded_trim key
  · exact fun hmem => hcomma.2.2 (mem_of_mem_trim hmem)
  · exact unpadded_trim value

end

variable {labels : Labels}

/-- The pieces of the text of plain labels are the texts of their pairs. -/
theorem Plain.pieces_text (h : labels.Plain) :
    pieces labels.text.toList = (labels.pairs.map pairText).map String.toList := by
  apply pieces_withCommas
  intro part hpart
  obtain ⟨pair, hpair, rfl⟩ := List.mem_map.mp hpart
  exact ⟨pairText_ne_empty pair, (h pair hpair).comma_not_mem, (h pair hpair).unpadded_pairText⟩

/-- **Plain labels** are read back from their text. -/
theorem Plain.read_text (h : labels.Plain) : read labels.text = .ok labels := by
  refine read_eq_ok_iff.mpr ⟨labels.pairs, ?_, (ofList_pairs labels).symm⟩
  rw [h.pieces_text, List.map_map, List.map_map]
  exact List.map_congr_left fun pair hpair => (h pair hpair).readPair_pairText

/-- Labels that were read are plain. -/
theorem plain_of_read {raw : String} (h : read raw = .ok labels) : labels.Plain := by
  obtain ⟨pairs, hpairs, rfl⟩ := read_eq_ok_iff.mp h
  intro pair hpair
  have hmem : some pair ∈ (pieces raw.toList).map readPair := by
    rw [hpairs]
    exact List.mem_map_of_mem (Keyed.mem_of_mem_ofList hpair)
  obtain ⟨piece, hpiece, hread⟩ := List.mem_map.mp hmem
  exact plainPair_of_readPair (not_mem_of_mem_pieces hpiece) hread

end Labels

/-! ## The text that asks for pods -/

namespace Filter

/-- The text that asks a cluster for the labels to select; where there are none, it is empty. -/
def selectorText (f : Filter) : String := f.labelSelector?.getD ""

theorem selectorText_eq (f : Filter) : f.selectorText = f.select.text := by
  unfold selectorText labelSelector?
  split
  · next hempty =>
    have hpairs : f.select.pairs = [] := List.isEmpty_iff.mp hempty
    rw [Labels.text, hpairs]
    rfl
  · rfl

/-- **The labels to select** can be told from the text that asks for them. -/
structure Faithful (f : Filter) : Prop where
  /-- Plain labels are read back from the text, -/
  plain : f.select.Plain → Labels.read f.selectorText = .ok f.select
  /-- and plain labels are just those that a text spells. -/
  spelled : (∃ raw, Labels.read raw = .ok f.select) ↔ f.select.Plain
  /-- So labels that were read come through, however their text was written. -/
  again : ∀ raw, Labels.read raw = .ok f.select → Labels.read f.selectorText = .ok f.select
  /-- Different plain labels are asked for in different ways. -/
  distinct : f.select.Plain → ∀ g : Filter, g.select.Plain →
    g.labelSelector? = f.labelSelector? → g.select = f.select

/-- **Labels are read as they are written.** -/
theorem faithful (f : Filter) : f.Faithful := by
  have hread : ∀ g : Filter, g.select.Plain → Labels.read g.selectorText = .ok g.select := by
    intro g hg
    rw [selectorText_eq]
    exact hg.read_text
  constructor
  · exact hread f
  · constructor
    · rintro ⟨raw, hraw⟩
      exact Labels.plain_of_read hraw
    · intro h
      exact ⟨f.selectorText, hread f h⟩
  · intro raw hraw
    exact hread f (Labels.plain_of_read hraw)
  · intro h g hg hsame
    have htext : g.selectorText = f.selectorText := congrArg (·.getD "") hsame
    have hlabels := hread g hg
    rw [htext, hread f h] at hlabels
    exact (Except.ok.inj hlabels).symm

example : (Labels.read " tier = web,, app=a=b,on=").map Labels.text = .ok "app=a=b,on=,tier=web" := by
  decide +kernel

end Filter

end FaultInjection
