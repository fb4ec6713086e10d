import FaultInjection.Proofs.Text.Pieces
import Mathlib.Data.List.TakeWhile

/-!
# Trimmed texts

A trimmed text has no blank at either end (`unpadded_trim`), a text without blanks at its ends is not
changed by trimming (`trim_eq_self_iff`), and blanks around a text make no difference to what is left
of it (`trim_around`).  So a list of such texts is what the pieces are of the
list written with commas (`pieces_withCommas`).
-/

namespace FaultInjection.Text

/-- No blank stands at either end. -/
def Unpadded (s : List Char) : Prop :=
  (∀ c ∈ s.head?, isBlank c = false) ∧ ∀ c ∈ s.getLast?, isBlank c = false

/-! ## One end -/

theorem trimStart_of_head {s : List Char} (h : ∀ c ∈ s.head?, isBlank c = false) :
    trimStart s = s := by
  cases s with
  | nil => rfl
  | cons c r => rw [trimStart, List.dropWhile_cons_of_neg (by simp [h c rfl])]

theorem isBlank_of_mem_head?_trimStart {s : List Char} {c : Char} (h : c ∈ (trimStart s).head?) :
    isBlank c = false := by
  obtain ⟨r, hr⟩ := List.head?_eq_some_iff.mp h
  exact head_trimStart hr

/-- The end of a text is trimmed like the start of the text written backwards. -/
theorem trimEnd_eq (s : List Char) : trimEnd s = (trimStart s.reverse).reverse := rfl

theorem trimEnd_of_getLast {s : List Char} (h : ∀ c ∈ s.getLast?, isBlank c = false) :
    trimEnd s = s := by
  rw [← List.head?_reverse] at h
  rw [trimEnd_eq, trimStart_of_head h, List.reverse_reverse]

theorem trimStart_isSuffix (s : List Char) : trimStart s <:+ s := List.dropWhile_suffix isBlank

theorem trimEnd_isPrefix (s : List Char) : trimEnd s <+: s := by
  have hsuffix : (trimEnd s).reverse <:+ s.reverse := by
    rw [trimEnd_eq, List.reverse_reverse]
    exact trimStart_isSuffix s.reverse
  exact List.reverse_suffix.mp hsuffix

/-! ## Both ends -/

/-- Only characters of the text are left. -/
theorem mem_of_mem_trim {s : List Char} {c : Char} (h : c ∈ trim s) : c ∈ s :=
  (trimStart_isSuffix s).mem ((trimEnd_isPrefix (trimStart s)).mem h)

theorem unpadded_trim (s : List Char) : Unpadded (trim s) := by
  constructor
  · -- What is lost at the end does not change the first character of what is left.
    intro c hc
    obtain ⟨rest, hrest⟩ := trimEnd_isPrefix (trimStart s)
    apply isBlank_of_mem_head?_trimStart (s := s)
    rw [← hrest, List.head?_append]
    exact Option.or_eq_some_iff.mpr (Or.inl hc)
  · intro c hc
    rw [trim, trimEnd_eq, List.getLast?_reverse] at hc
    exact isBlank_of_mem_head?_trimStart hc

/-- **Trimming changes nothing** exactly where no blank stands at either end. -/
theorem trim_eq_self_iff {s : List Char} : trim s = s ↔ Unpadded s := by
  constructor
  · intro h
    rw [← h]
    exact unpadded_trim s
  · rintro ⟨hhead, hlast⟩
    rw [trim, trimStart_of_head hhead, trimEnd_of_getLast hlast]

/-! ## Blank texts -/

/-- There is nothing but blanks. -/
def Blank (s : List Char) : Prop := ∀ c ∈ s, isBlank c = true

theorem trimStart_append_of_blank {a : List Char} (ha : Blank a) (s : List Char) :
    trimStart (a ++ s) = trimStart s :=
  List.dropWhile_append_of_pos ha

theorem trimEnd_append_of_blank {b : List Char} (hb : Blank b) (s : List Char) :
    trimEnd (s ++ b) = trimEnd s := by
  have hreverse : Blank b.reverse := fun c hc => hb c (List.mem_reverse.mp hc)
  rw [trimEnd_eq, List.reverse_append, trimStart_append_of_blank hreverse, ← trimEnd_eq]

theorem trimStart_eq_nil_iff {s : List Char} : trimStart s = [] ↔ Blank s :=
  List.dropWhile_eq_nil_iff

/-- **Nothing is left** exactly of a blank text. -/
theorem trim_eq_nil_iff {s : List Char} : trim s = [] ↔ Blank s := by
  rw [← trimStart_eq_nil_iff]
  constructor
  · intro h
    -- What is left at the front would begin with a character that no end takes away.
    cases hstart : trimStart s with
    | nil => rfl
    | cons c r =>
        have hend : Blank (trimStart s).reverse := by
          rw [← trimStart_eq_nil_iff, ← List.reverse_eq_nil_iff, ← trimEnd_eq]
          exact h
        have hc : isBlank c = true := hend c (by simp [hstart])
        rw [head_trimStart hstart] at hc
        cases hc
  · intro h
    rw [trim, h]
    rfl

/-- **Blanks around a text** are trimmed away. -/
theorem trim_around {a b : List Char} (ha : Blank a) (hb : Blank b) (s : List Char) :
    trim (a ++ s ++ b) = trim s := by
  rw [trim, List.append_assoc, trimStart_append_of_blank ha]
  by_cases hs : Blank s
  · have hall : Blank (s ++ b) := fun c hc => (List.mem_append.mp hc).elim (hs c) (hb c)
    rw [trimStart_eq_nil_iff.mpr hall, trim_eq_nil_iff.mpr hs]
    rfl
  · have hstart : trimStart (s ++ b) = trimStart s ++ b := by
      rw [trimStart, List.dropWhile_append, if_neg]
      · rfl
      · rw [List.isEmpty_iff]
        exact mt trimStart_eq_nil_iff.mp hs
    rw [hstart, trimEnd_append_of_blank hb, trim]

/-- So trimming once at one end is nothing to trimming at both. -/
theorem trim_trimStart (s : List Char) : trim (trimStart s) = trim s := by
  obtain ⟨a, hs, ha⟩ := exists_trimStart s
  have haround := trim_around ha (b := []) (fun _ h => absurd h List.not_mem_nil) (trimStart s)
  rw [List.append_nil, ← hs] at haround
  exact haround.symm

theorem trim_trimEnd (s : List Char) : trim (trimEnd s) = trim s := by
  obtain ⟨b, hs, hb⟩ := exists_trimStart s.reverse
  have hblank : Blank b.reverse := fun c hc => hb c (List.mem_reverse.mp hc)
  have hsplit : s = trimEnd s ++ b.reverse := by
    rw [trimEnd_eq, ← List.reverse_append, ← hs, List.reverse_reverse]
  have haround := trim_around (a := []) (fun _ h => absurd h List.not_mem_nil) hblank (trimEnd s)
  rw [List.nil_append, ← hsplit] at haround
  exact haround.symm

theorem trimStart_append_cons {c : Char} (hc : isBlank c = false) (s t : List Char) :
    trimStart (s ++ c :: t) = trimStart s ++ c :: t := by
  rw [trimStart, List.dropWhile_append, List.dropWhile_cons_of_neg (by simp [hc])]
  split
  · next h =>
    rw [trimStart, List.isEmpty_iff.mp h]
    rfl
  · rfl

/-- Around a character that stays, each end is trimmed by itself. -/
theorem trim_append_cons {c : Char} (hc : isBlank c = false) (s t : List Char) :
    trim (s ++ c :: t) = trimStart s ++ c :: trimEnd t := by
  rw [trim, trimStart_append_cons hc, trimEnd_eq, List.reverse_append, List.reverse_cons,
    List.append_assoc, List.singleton_append, trimStart_append_cons hc, trimEnd_eq]
  simp

/-! ## Pieces -/

theorem pieces_nil : pieces [] = [] := rfl

/-- A comma between two texts keeps their pieces apart. -/
theorem pieces_append_comma (s t : List Char) : pieces (s ++ ',' :: t) = pieces s ++ pieces t := by
  rw [pieces, splitAt_append_sep, List.map_append, List.filter_append]
  rfl

theorem pieces_comma_cons (s : List Char) : pieces (',' :: s) = pieces s :=
  pieces_append_comma [] s

/-- A text without a comma is a single piece, or none. -/
theorem pieces_of_not_mem {s : List Char} (h : ',' ∉ s) :
    pieces s = [trim s].filter (· ≠ []) := by
  rw [pieces, splitAt_of_not_mem h]
  rfl

theorem not_mem_of_mem_pieces {s p : List Char} (h : p ∈ pieces s) : ',' ∉ p := by
  obtain ⟨part, hpart, rfl⟩ := List.mem_map.mp (List.mem_of_mem_filter h)
  exact fun hcomma => not_mem_of_mem_splitAt hpart (mem_of_mem_trim hcomma)

/-- **A list written with commas** has its texts as pieces, if they are not empty, hold no comma and
are not padded. -/
theorem pieces_withCommas {parts : List String}
    (h : ∀ p ∈ parts, p ≠ "" ∧ ',' ∉ p.toList ∧ Unpadded p.toList) :
    pieces (withCommas parts).toList = parts.map String.toList := by
  by_cases hnil : parts = []
  · rw [hnil]
    rfl
  · have htrim : (parts.map String.toList).map trim = parts.map String.toList := by
      rw [List.map_map]
      exact List.map_congr_left fun p hp => trim_eq_self_iff.mpr (h p hp).2.2
    rw [pieces, splitAt_withCommas hnil fun p hp => (h p hp).2.1, htrim, List.filter_eq_self]
    intro part hpart
    obtain ⟨p, hp, rfl⟩ := List.mem_map.mp hpart
    have hne : p.toList ≠ [] := mt String.toList_eq_nil_iff.mp (h p hp).1
    exact decide_eq_true hne

end FaultInjection.Text
