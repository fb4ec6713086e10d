import FaultInjection.Text.Utf8
import Mathlib.Data.List.Basic
import Mathlib.Algebra.Ring.Nat

/-!
# What octets mean

`Reads` says what octets mean without reading them one at a time: a character stands for its
encoding, and a gap for the longest stretch that begins a character which what follows does not
complete, or for a single octet that begins none.  The decoder gives exactly this
(`reads_iff`).  So the octets of a text are read as that text, whatever follows them
(`decodeLenient_encode`), and strict reading takes no other octets (`decode?_eq_some_iff`).
-/

namespace FaultInjection.Text

/-! ## What octets mean -/

/-- Octets with which the encoding of a character begins. -/
def Begins (octets : List UInt8) : Prop := ∃ c : Char, octets <+: String.utf8EncodeChar c

/-- **A gap** before some rest: the longest stretch that begins a character but is not complete, or a
single octet that begins none. -/
structure Gap (octets rest : List UInt8) : Prop where
  ne_nil : octets ≠ []
  /-- There is no whole character. -/
  incomplete : ∀ c : Char, ¬ String.utf8EncodeChar c <+: octets
  begins : octets.length = 1 ∨ Begins octets
  /-- What follows does not go on with the character. -/
  longest : ∀ b more, rest = b :: more → ¬ Begins (octets ++ [b])

/-- **What octets mean**: the characters, and `none` for a gap. -/
inductive Reads : List UInt8 → List (Option Char) → Prop
  | nil : Reads [] []
  | char {rest : List UInt8} {chars : List (Option Char)} (c : Char) (later : Reads rest chars) :
      Reads (String.utf8EncodeChar c ++ rest) (some c :: chars)
  | gap {octets rest : List UInt8} {chars : List (Option Char)} (gap : Gap octets rest)
      (later : Reads rest chars) : Reads (octets ++ rest) (none :: chars)

/-! ## Encodings -/

/-- The octets of an encoding after the first one, as many as told. -/
def trail (n : ℕ) : ℕ → List UInt8
  | 0 => []
  | k + 1 => UInt8.ofNat (n / 64 ^ k % 64 + 128) :: trail n k

/-- The first octet of an encoding. -/
def firstOctet (n : ℕ) : ℕ :=
  if n ≤ 0x7F then n
  else if n ≤ 0x7FF then n / 64 + 0xC0
  else if n ≤ 0xFFFF then n / 4096 + 0xE0
  else n / 262144 + 0xF0

/-- How many octets follow it. -/
def octetsAfter (n : ℕ) : ℕ :=
  if n ≤ 0x7F then 0 else if n ≤ 0x7FF then 1 else if n ≤ 0xFFFF then 2 else 3

/-- The encoding of a character by its number. -/
theorem utf8EncodeChar_eq (c : Char) : String.utf8EncodeChar c =
    UInt8.ofNat (firstOctet c.toNat) :: trail c.toNat (octetsAfter c.toNat) := by
  have hvalid : c.toNat < 0xD800 ∨ 0xDFFF < c.toNat ∧ c.toNat < 0x110000 := c.valid
  simp only [String.utf8EncodeChar, Char.toNat_val, firstOctet, octetsAfter]
  split
  · rfl
  · split
    · rw [Nat.mod_eq_of_lt (show c.toNat / 64 < 32 by omega)]
      simp [trail]
    · split
      · rw [Nat.mod_eq_of_lt (show c.toNat / 4096 < 16 by omega)]
        simp [trail]
      · rw [Nat.mod_eq_of_lt (show c.toNat / 262144 < 8 by omega)]
        simp [trail]

theorem toNat_ofNat_of_isValidChar {n : ℕ} (h : n.isValidChar) : (Char.ofNat n).toNat = n := by
  rw [Char.ofNat, dif_pos h]
  rfl

theorem eq_ofNat_iff {b : UInt8} {n : ℕ} (hn : n < 256) : b = UInt8.ofNat n ↔ b.toNat = n := by
  rw [← UInt8.toNat_inj, UInt8.toNat_ofNat', Nat.mod_eq_of_lt hn]

/-- The first octet of an encoding alone. -/
theorem singleton_prefix_iff {b : UInt8} {c : Char} :
    [b] <+: String.utf8EncodeChar c ↔ b.toNat = firstOctet c.toNat := by
  have hvalid : c.toNat < 0xD800 ∨ 0xDFFF < c.toNat ∧ c.toNat < 0x110000 := c.valid
  have hlt : firstOctet c.toNat < 256 := by
    unfold firstOctet
    split_ifs <;> omega
  rw [utf8EncodeChar_eq, List.cons_prefix_cons, eq_ofNat_iff hlt, and_iff_left List.nil_prefix]

/-! ## Unfinished characters -/

/-- A number that an unfinished character can come to. -/
structure Fits (u : Unfinished) (n : ℕ) : Prop where
  bits : n / 64 ^ (u.after + 1) = u.bits
  low : u.low ≤ n / 64 ^ u.after % 64 + 128
  high : n / 64 ^ u.after % 64 + 128 ≤ u.high

theorem fits_iff {u : Unfinished} {n : ℕ} : Fits u n ↔ n / 64 ^ (u.after + 1) = u.bits ∧
    u.low ≤ n / 64 ^ u.after % 64 + 128 ∧ n / 64 ^ u.after % 64 + 128 ≤ u.high :=
  ⟨fun ⟨bits, low, high⟩ => ⟨bits, low, high⟩, fun ⟨bits, low, high⟩ => ⟨bits, low, high⟩⟩

/-- **What an unfinished character stands for**: the octets with which it began are continued to the
encodings of the characters that fit it. -/
structure Awaits (octets : List UInt8) (u : Unfinished) : Prop where
  fits_iff : ∀ c : Char, octets <+: String.utf8EncodeChar c ↔ Fits u c.toNat
  rest : ∀ c : Char, octets <+: String.utf8EncodeChar c →
    String.utf8EncodeChar c = octets ++ trail c.toNat (u.after + 1)
  valid : ∀ n, Fits u n → n.isValidChar
  low : 128 ≤ u.low
  range : u.low ≤ u.high
  high : u.high < 192

theorem isPrefix_of_concat {octets : List UInt8} {b : UInt8} {l : List UInt8}
    (h : octets ++ [b] <+: l) : octets <+: l :=
  (List.prefix_append octets [b]).trans h

namespace Awaits

variable {octets : List UInt8} {u : Unfinished} {b : UInt8}

/-- A number that fits has the next octet if it has the bits of both. -/
theorem fits_and_eq_iff (h : Awaits octets u) {n : ℕ} :
    Fits u n ∧ b.toNat = n / 64 ^ u.after % 64 + 128 ↔
      (u.low ≤ b.toNat ∧ b.toNat ≤ u.high) ∧ n / 64 ^ u.after = u.bits * 64 + (b.toNat - 128) := by
  have hlow := h.low
  have hhigh := h.high
  have hbits : n / 64 ^ (u.after + 1) = n / 64 ^ u.after / 64 := by
    rw [Nat.pow_succ, Nat.div_div_eq_div_mul]
  constructor
  · rintro ⟨⟨bits, low, high⟩, hb⟩
    omega
  · rintro ⟨⟨hlow', hhigh'⟩, hn⟩
    refine ⟨⟨?_, ?_, ?_⟩, ?_⟩ <;> omega

/-- The characters that go on with an octet. -/
theorem concat_prefix_iff (h : Awaits octets u) {c : Char} :
    octets ++ [b] <+: String.utf8EncodeChar c ↔ (u.low ≤ b.toNat ∧ b.toNat ≤ u.high) ∧
      c.toNat / 64 ^ u.after = u.bits * 64 + (b.toNat - 128) := by
  rw [← h.fits_and_eq_iff, ← h.fits_iff, ← eq_ofNat_iff (by omega)]
  constructor
  · intro hc
    have hoctets := isPrefix_of_concat hc
    rw [h.rest c hoctets, List.prefix_append_right_inj, trail, List.cons_prefix_cons] at hc
    exact ⟨hoctets, hc.1⟩
  · rintro ⟨hoctets, rfl⟩
    rw [h.rest c hoctets, List.prefix_append_right_inj, trail, List.cons_prefix_cons]
    exact ⟨rfl, List.nil_prefix⟩

/-- An octet goes on with some character exactly if it is in the range. -/
theorem begins_iff (h : Awaits octets u) :
    Begins (octets ++ [b]) ↔ u.low ≤ b.toNat ∧ b.toNat ≤ u.high := by
  constructor
  · rintro ⟨c, hc⟩
    exact (h.concat_prefix_iff.mp hc).1
  · intro hb
    have hdiv : (u.bits * 64 + (b.toNat - 128)) * 64 ^ u.after / 64 ^ u.after =
        u.bits * 64 + (b.toNat - 128) := Nat.mul_div_cancel _ (Nat.pow_pos (by decide))
    have hfits := (h.fits_and_eq_iff.mpr ⟨hb, hdiv⟩).1
    refine ⟨Char.ofNat ((u.bits * 64 + (b.toNat - 128)) * 64 ^ u.after), ?_⟩
    rw [h.concat_prefix_iff, toNat_ofNat_of_isValidChar (h.valid _ hfits)]
    exact ⟨hb, hdiv⟩

/-- The octets of an unfinished character do begin one. -/
theorem begins (h : Awaits octets u) : Begins octets := by
  have hlow : (UInt8.ofNat u.low).toNat = u.low :=
    Nat.mod_eq_of_lt (by have := h.range; have := h.high; omega)
  obtain ⟨c, hc⟩ := (h.begins_iff (b := UInt8.ofNat u.low)).mpr (by
    rw [hlow]
    exact ⟨le_rfl, h.range⟩)
  exact ⟨c, isPrefix_of_concat hc⟩

/-- The last octet completes a character. -/
theorem eq_of_last (h : Awaits octets u) (hlast : u.after = 0)
    (hb : u.low ≤ b.toNat ∧ b.toNat ≤ u.high) :
    String.utf8EncodeChar (Char.ofNat (u.bits * 64 + (b.toNat - 128))) = octets ++ [b] := by
  obtain ⟨c, hc⟩ := h.begins_iff.mpr hb
  have hn := (h.concat_prefix_iff.mp hc).2
  rw [hlast, Nat.pow_zero, Nat.div_one] at hn
  rw [← hn, Char.ofNat_toNat]
  refine (hc.eq_of_length ?_).symm
  rw [h.rest c (isPrefix_of_concat hc), hlast]
  simp [trail]

/-- Any other octet leaves one octet less to wait for. -/
theorem concat (h : Awaits octets u) {k : ℕ} (hmore : u.after = k + 1)
    (hb : u.low ≤ b.toNat ∧ b.toNat ≤ u.high) :
    Awaits (octets ++ [b]) { bits := u.bits * 64 + (b.toNat - 128), after := k } := by
  have hfits : ∀ n, Fits { bits := u.bits * 64 + (b.toNat - 128), after := k } n ↔
      n / 64 ^ u.after = u.bits * 64 + (b.toNat - 128) := by
    intro n
    rw [hmore]
    refine ⟨fun h => h.bits, fun h => ⟨h, Nat.le_add_left _ _, ?_⟩⟩
    have := Nat.mod_lt (n / 64 ^ k) (show 0 < 64 by decide)
    show n / 64 ^ k % 64 + 128 ≤ 0xBF
    omega
  refine ⟨?_, ?_, ?_, le_rfl, ?_, Nat.lt_succ_self _⟩
  · intro c
    rw [hfits, h.concat_prefix_iff, and_iff_right hb]
  · intro c hc
    have hrest := h.rest c (isPrefix_of_concat hc)
    have hnext : b = UInt8.ofNat (c.toNat / 64 ^ u.after % 64 + 128) := by
      rw [eq_ofNat_iff (by omega)]
      exact (h.fits_and_eq_iff.mpr (h.concat_prefix_iff.mp hc)).2
    rw [hrest, trail, ← hnext, hmore, List.append_assoc]
    rfl
  · intro n hn
    exact h.valid n (h.fits_and_eq_iff.mpr ⟨hb, (hfits n).mp hn⟩).1
  · show 0x80 ≤ 0xBF
    decide

end Awaits

/-- The first octet of some characters. -/
theorem awaits_singleton {b : UInt8} {u : Unfinished} (low : 128 ≤ u.low)
    (range : u.low ≤ u.high) (high : u.high < 192)
    (h : ∀ n, n.isValidChar ∧ b.toNat = firstOctet n ↔ Fits u n)
    (hsize : ∀ n, Fits u n → octetsAfter n = u.after + 1) : Awaits [b] u where
  fits_iff c := by
    have hvalid : c.toNat.isValidChar := c.valid
    rw [singleton_prefix_iff, ← h, and_iff_right hvalid]
  rest := by
    intro c hc
    have hfits := (h c.toNat).mp ⟨c.valid, singleton_prefix_iff.mp hc⟩
    rw [utf8EncodeChar_eq, List.cons_prefix_cons] at hc
    rw [utf8EncodeChar_eq, ← hc.1, hsize _ hfits]
    rfl
  valid n hn := ((h n).mpr hn).1
  low := low
  range := range
  high := high

/-- **The first octet** is a character, begins one, or begins none. -/
theorem startChar_cases (b : UInt8) :
    (∃ c, startChar b = ([some c], none) ∧ String.utf8EncodeChar c = [b] ∧
      ∀ d, [b] <+: String.utf8EncodeChar d → d = c) ∨
    (∃ u, startChar b = ([], some u) ∧ Awaits [b] u) ∨
    startChar b = ([none], none) ∧ ¬ Begins [b] := by
  have hnone : (∀ n, n.isValidChar → b.toNat ≠ firstOctet n) → ¬ Begins [b] := by
    rintro h ⟨c, hc⟩
    exact h c.toNat c.valid (singleton_prefix_iff.mp hc)
  fun_cases startChar b
  · refine Or.inl ⟨_, rfl, ?_, ?_⟩
    · have hvalid : b.toNat.isValidChar := Or.inl (by omega)
      rw [utf8EncodeChar_eq, toNat_ofNat_of_isValidChar hvalid, firstOctet, octetsAfter,
        if_pos (by omega), if_pos (by omega), UInt8.ofNat_toNat]
      rfl
    · intro d hd
      have hd : b.toNat = firstOctet d.toNat := singleton_prefix_iff.mp hd
      have hlow : firstOctet d.toNat = d.toNat := by
        unfold firstOctet at hd ⊢
        split_ifs at hd ⊢ <;> omega
      show d = Char.ofNat b.toNat
      rw [hd, hlow, Char.ofNat_toNat]
  · right; right
    refine ⟨rfl, hnone fun n hn => ?_⟩
    unfold firstOctet
    split_ifs <;> omega
  -- Seven ranges of octets begin a character, each with a range of its own for the next octet.
  iterate 7
    · refine Or.inr (Or.inl ⟨_, rfl, awaits_singleton ?_ ?_ ?_ (fun n => ?_) fun n => ?_⟩)
      · dsimp only
        omega
      · dsimp only
        omega
      · dsimp only
        omega
      · rw [fits_iff]
        unfold firstOctet
        dsimp only
        split_ifs <;> omega
      · rw [fits_iff]
        unfold octetsAfter
        dsimp only
        split_ifs <;> omega
  · right; right
    refine ⟨rfl, hnone fun n hn => ?_⟩
    unfold firstOctet
    split_ifs <;> omega

/-! ## The decoder -/

theorem decodeFrom_start (b : UInt8) (rest : List UInt8) :
    decodeFrom none (b :: rest) = (startChar b).1 ++ decodeFrom (startChar b).2 rest := rfl

theorem decodeFrom_continue (u : Unfinished) (b : UInt8) (rest : List UInt8) :
    decodeFrom (some u) (b :: rest) =
      (continueChar u b).1 ++ decodeFrom (continueChar u b).2 rest := rfl

variable {u : Unfinished} {b : UInt8}

/-- An octet in the range completes a character that waits for no other, -/
theorem continueChar_of_last (hlast : u.after = 0) (hb : u.low ≤ b.toNat ∧ b.toNat ≤ u.high) :
    continueChar u b = ([some (Char.ofNat (u.bits * 64 + (b.toNat - 128)))], none) := by
  simp only [continueChar, if_pos hb, hlast]

/-- and is kept for one that does. -/
theorem continueChar_of_more {k : ℕ} (hmore : u.after = k + 1)
    (hb : u.low ≤ b.toNat ∧ b.toNat ≤ u.high) : continueChar u b =
      ([], some { bits := u.bits * 64 + (b.toNat - 128), after := k }) := by
  simp only [continueChar, if_pos hb, hmore]

/-- Any other octet starts anew after a gap. -/
theorem decodeFrom_of_out {rest : List UInt8} (hb : ¬ (u.low ≤ b.toNat ∧ b.toNat ≤ u.high)) :
    decodeFrom (some u) (b :: rest) = none :: decodeFrom none (b :: rest) := by
  simp only [decodeFrom_continue, continueChar, if_neg hb, decodeFrom_start, List.cons_append]

/-- The rest of its encoding completes a character. -/
theorem Awaits.decodeFrom_trail {octets : List UInt8} (h : Awaits octets u) {c : Char}
    (hc : octets <+: String.utf8EncodeChar c) (rest : List UInt8) :
    decodeFrom (some u) (trail c.toNat (u.after + 1) ++ rest) = some c :: decodeFrom none rest := by
  induction hafter : u.after generalizing octets u with
  | zero =>
      have hnext : octets ++ [UInt8.ofNat (c.toNat / 64 ^ 0 % 64 + 128)] <+:
          String.utf8EncodeChar c := by
        rw [h.rest c hc, hafter]
        exact List.prefix_rfl
      obtain ⟨hb, hn⟩ := h.concat_prefix_iff.mp hnext
      rw [hafter, Nat.pow_zero, Nat.div_one] at hn
      rw [Nat.zero_add, trail, trail, List.singleton_append, decodeFrom_continue,
        continueChar_of_last hafter hb, Nat.pow_zero, Nat.div_one, ← hn, Char.ofNat_toNat]
      rfl
  | succ k ih =>
      have hnext : octets ++ [UInt8.ofNat (c.toNat / 64 ^ (k + 1) % 64 + 128)] <+:
          String.utf8EncodeChar c := by
        rw [h.rest c hc, hafter, trail, List.prefix_append_right_inj]
        exact List.prefix_append [_] _
      have hb := (h.concat_prefix_iff.mp hnext).1
      rw [trail, List.cons_append, decodeFrom_continue, continueChar_of_more hafter hb]
      exact ih (h.concat hafter hb) hnext rfl

/-- **Characters.**  The encoding of a character is read as that character. -/
theorem decodeFrom_utf8EncodeChar (c : Char) (rest : List UInt8) :
    decodeFrom none (String.utf8EncodeChar c ++ rest) = some c :: decodeFrom none rest := by
  obtain ⟨b, l, hc⟩ := List.exists_cons_of_ne_nil (@String.utf8EncodeChar_ne_nil c)
  have hfirst : [b] <+: String.utf8EncodeChar c := hc ▸ List.prefix_append [b] l
  rw [hc, List.cons_append, decodeFrom_start]
  rcases startChar_cases b with ⟨d, hstart, hd, honly⟩ | ⟨u, hstart, hawaits⟩ | ⟨-, hnone⟩
  · rw [← honly c hfirst, hc, List.cons.injEq] at hd
    rw [hstart, hd.2, honly c hfirst]
    rfl
  · have hrest := hawaits.rest c hfirst
    rw [hc, List.singleton_append, List.cons.injEq] at hrest
    rw [hstart, hrest.2]
    exact hawaits.decodeFrom_trail hfirst rest
  · exact absurd ⟨c, hfirst⟩ hnone

/-- An unfinished character that is not completed is one gap. -/
theorem Awaits.decodeFrom_gap {octets l rest : List UInt8} (h : Awaits octets u)
    (hincomplete : ∀ c : Char, ¬ String.utf8EncodeChar c <+: octets ++ l)
    (hbegins : Begins (octets ++ l))
    (hlongest : ∀ b more, rest = b :: more → ¬ Begins (octets ++ l ++ [b])) :
    decodeFrom (some u) (l ++ rest) = none :: decodeFrom none rest := by
  induction l generalizing octets u with
  | nil =>
      cases rest with
      | nil => rfl
      | cons b more =>
          have hb := hlongest b more rfl
          rw [List.append_nil, h.begins_iff] at hb
          exact decodeFrom_of_out hb
  | cons b l ih =>
      have hsplit : octets ++ b :: l = octets ++ [b] ++ l := List.append_cons _ _ _
      rw [hsplit] at hincomplete hbegins hlongest
      obtain ⟨c, hc⟩ := hbegins
      have hb := h.begins_iff.mp ⟨c, (List.prefix_append _ l).trans hc⟩
      cases hafter : u.after with
      | zero =>
          refine absurd ?_ (hincomplete (Char.ofNat (u.bits * 64 + (b.toNat - 128))))
          rw [h.eq_of_last hafter hb]
          exact List.prefix_append _ _
      | succ k =>
          rw [List.cons_append, decodeFrom_continue, continueChar_of_more hafter hb]
          exact ih (h.concat hafter hb) hincomplete ⟨c, hc⟩ hlongest

/-- **Gaps.**  A gap is read as one. -/
theorem Gap.decodeFrom {octets rest : List UInt8} (h : Gap octets rest) :
    decodeFrom none (octets ++ rest) = none :: decodeFrom none rest := by
  obtain ⟨b, l, rfl⟩ := List.exists_cons_of_ne_nil h.ne_nil
  rw [List.cons_append, decodeFrom_start]
  have hbegins : Begins [b] → Begins (b :: l) := by
    intro hb
    rcases h.begins with hlength | hbegins
    · rwa [List.length_eq_zero_iff.mp (Nat.succ.inj hlength)]
    · exact hbegins
  rcases startChar_cases b with ⟨c, -, hc, -⟩ | ⟨u, hstart, hawaits⟩ | ⟨hstart, hnone⟩
  · refine absurd ?_ (h.incomplete c)
    rw [hc]
    exact List.prefix_append [b] l
  · rw [hstart]
    refine hawaits.decodeFrom_gap h.incomplete (hbegins hawaits.begins) h.longest
  · -- A single octet that begins no character.
    have hl : l = [] := by
      rcases h.begins with hlength | ⟨c, hc⟩
      · exact List.length_eq_zero_iff.mp (Nat.succ.inj hlength)
      · exact absurd ⟨c, (List.prefix_append [b] l).trans hc⟩ hnone
    rw [hstart, hl]
    rfl

/-! ## Whole texts -/

/-- Octets with which no character begins have a gap before them. -/
theorem exists_gap {octets rest : List UInt8} (hne : octets ≠ [])
    (hincomplete : ∀ c : Char, ¬ String.utf8EncodeChar c <+: octets ++ rest)
    (hbegins : octets.length = 1 ∨ Begins octets) :
    ∃ gap rest', octets ++ rest = gap ++ rest' ∧ Gap gap rest' := by
  have hgap : ∀ c : Char, ¬ String.utf8EncodeChar c <+: octets :=
    fun c hc => hincomplete c (hc.trans (List.prefix_append octets rest))
  induction rest generalizing octets with
  | nil => exact ⟨octets, [], rfl, hne, hgap, hbegins, fun _ _ h => nomatch h⟩
  | cons b rest ih =>
      by_cases hmore : Begins (octets ++ [b])
      · have hsplit : octets ++ b :: rest = octets ++ [b] ++ rest := List.append_cons _ _ _
        rw [hsplit] at hincomplete ⊢
        exact ih (List.append_ne_nil_of_right_ne_nil _ (List.cons_ne_nil _ _)) hincomplete
          (Or.inr hmore) fun c hc => hincomplete c (hc.trans (List.prefix_append _ rest))
      · refine ⟨octets, b :: rest, rfl, hne, hgap, hbegins, ?_⟩
        rintro b' more heq
        obtain ⟨rfl, rfl⟩ := List.cons.inj heq
        exact hmore

/-- All octets mean something. -/
theorem exists_reads (octets : List UInt8) : ∃ chars, Reads octets chars := by
  induction hlength : octets.length using Nat.strong_induction_on generalizing octets with
  | _ n ih =>
      subst hlength
      cases octets with
      | nil => exact ⟨[], .nil⟩
      | cons b l =>
          by_cases hchar : ∃ c : Char, String.utf8EncodeChar c <+: b :: l
          · obtain ⟨c, rest, hrest⟩ := hchar
            have hpos := List.length_pos_iff.mpr (@String.utf8EncodeChar_ne_nil c)
            obtain ⟨chars, hchars⟩ := ih rest.length (by
              rw [← hrest, List.length_append]
              omega) rest rfl
            exact ⟨some c :: chars, hrest ▸ hchars.char c⟩
          · obtain ⟨gap, rest, hsplit, hgap⟩ := @exists_gap [b] l (List.cons_ne_nil b [])
              (not_exists.mp hchar) (Or.inl rfl)
            have hpos := List.length_pos_iff.mpr hgap.ne_nil
            rw [List.singleton_append] at hsplit
            obtain ⟨chars, hchars⟩ := ih rest.length (by
              rw [hsplit, List.length_append]
              omega) rest rfl
            exact ⟨none :: chars, hsplit ▸ hchars.gap hgap⟩

/-- **The decoder** gives what octets mean, and nothing else. -/
theorem reads_iff {octets : List UInt8} {chars : List (Option Char)} :
    Reads octets chars ↔ decodeFrom none octets = chars := by
  have hdecode : ∀ chars, Reads octets chars → decodeFrom none octets = chars := by
    intro chars h
    induction h with
    | nil => rfl
    | char c later ih => rw [decodeFrom_utf8EncodeChar, ih]
    | gap gap later ih => rw [gap.decodeFrom, ih]
  refine ⟨hdecode chars, ?_⟩
  rintro rfl
  obtain ⟨chars, hchars⟩ := exists_reads octets
  rwa [hdecode chars hchars]

/-- Octets are read leniently as what they mean, with U+FFFD for each gap. -/
theorem decodeLenient_eq_iff {octets : List UInt8} {s : String} : decodeLenient octets = s ↔
    ∃ chars, Reads octets chars ∧ s = String.ofList (chars.map (·.getD '\uFFFD')) := by
  simp only [reads_iff, exists_eq_left', decodeLenient]
  exact eq_comm

/-- A character that breaks off is one gap, and two octets that begin none are two. -/
example : decodeLenient [0xE2, 0x82, 0x41, 0xC0, 0x80] = "\uFFFDA\uFFFD\uFFFD" := by decide

theorem toList_loop (octets : ByteArray) (i : ℕ) (read : List UInt8) :
    ByteArray.toList.loop octets i read = read.reverse ++ octets.data.toList.drop i := by
  fun_induction ByteArray.toList.loop octets i read with
  | case1 i read h ih =>
      have hi : i < octets.data.toList.length := by simpa using h
      rw [ih, List.drop_eq_getElem_cons hi]
      simp [ByteArray.get!, h]
  | case2 i read h =>
      rw [List.drop_eq_nil_of_le (by simpa using Nat.le_of_not_lt h), List.append_nil]

/-- The octets of a text are those of its characters. -/
theorem encode_eq (s : String) : encode s = s.toList.flatMap String.utf8EncodeChar := by
  have hbytes : s.toUTF8 = (s.toList.flatMap String.utf8EncodeChar).toByteArray := by
    conv_lhs => rw [← String.ofList_toList (s := s)]
    rw [String.toUTF8_eq_toByteArray, String.toByteArray_ofList, List.utf8Encode]
  rw [encode, hbytes, ByteArray.toList, toList_loop, List.toList_data_toByteArray]
  rfl

/-- **Texts.**  The octets of a text are read as that text, whatever follows them. -/
theorem decodeLenient_encode_append (s : String) (rest : List UInt8) :
    decodeLenient (encode s ++ rest) = s ++ decodeLenient rest := by
  have hchars : ∀ l : List Char, decodeFrom none (l.flatMap String.utf8EncodeChar ++ rest) =
      l.map some ++ decodeFrom none rest := by
    intro l
    induction l with
    | nil => rfl
    | cons c l ih =>
        rw [List.flatMap_cons, List.append_assoc, decodeFrom_utf8EncodeChar, ih]
        rfl
  have hsame : (fun g : Option Char => g.getD '\uFFFD') ∘ some = id := rfl
  rw [decodeLenient, encode_eq, hchars, List.map_append, List.map_map, String.ofList_append, hsame,
    List.map_id, String.ofList_toList]
  rfl

theorem decodeLenient_encode (s : String) : decodeLenient (encode s) = s := by
  have h := decodeLenient_encode_append s []
  rwa [List.append_nil, show decodeLenient [] = "" from rfl, String.append_empty] at h

/-! ## Strict reading -/

/-- Octets without gaps are the encodings of their characters. -/
theorem reads_map_some_iff {octets : List UInt8} {cs : List Char} :
    Reads octets (cs.map some) ↔ octets = cs.flatMap String.utf8EncodeChar := by
  constructor
  · intro h
    induction cs generalizing octets with
    | nil =>
        cases h
        rfl
    | cons c cs ih =>
        cases h with
        | char c later => rw [List.flatMap_cons, ← ih later]
  · rintro rfl
    induction cs with
    | nil => exact .nil
    | cons c cs ih => exact .char c ih

theorem mapM_id_eq_some_iff {gaps : List (Option Char)} {cs : List Char} :
    gaps.mapM id = some cs ↔ gaps = cs.map some := by
  induction gaps generalizing cs with
  | nil => cases cs <;> simp
  | cons gap gaps ih =>
      cases gap with
      | none => cases cs <;> simp
      | some c => cases cs <;> simp [Option.bind_eq_some_iff, ih, and_comm]

/-- **Strict reading** gives a text exactly for its octets. -/
theorem decode?_eq_some_iff {octets : List UInt8} {s : String} :
    decode? octets = some s ↔ octets = encode s := by
  rw [decode?, encode_eq, Option.map_eq_some_iff, ← reads_map_some_iff, reads_iff]
  simp only [mapM_id_eq_some_iff]
  constructor
  · rintro ⟨cs, hcs, rfl⟩
    rwa [String.toList_ofList]
  · intro h
    exact ⟨s.toList, h, String.ofList_toList⟩

end FaultInjection.Text
