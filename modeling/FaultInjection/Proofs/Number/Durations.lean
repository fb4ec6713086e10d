import FaultInjection.Proofs.Number.Reading
import Mathlib.Data.Nat.Basic
import Mathlib.Tactic.Ring

/-!
# The text of a duration is exact

The text of a duration is a plain decimal number with a unit, and the two make the duration up
(`Duration.count_mul_size`); no larger unit divides it (`Duration.size_le_of_dvd`).  A text can be
taken apart in one way only, so that different durations have different texts.  Nothing is lost when
the numbers are held in words of a machine, up to the longest duration (`Duration.Clock.text_eq`).
-/

namespace FaultInjection

/-! ## Numerals -/

namespace Number

theorem digitChar_eq {d : ℕ} (h : d < 10) : digitChar d = d.digitChar := by
  have hall : ∀ d < 10, digitChar d = d.digitChar := by decide
  exact hall d h

theorem decimal_eq_toDigits (n : ℕ) : decimal n = Nat.toDigits 10 n := by
  induction n using Nat.strongRecOn with
  | _ n ih =>
    rw [decimal]
    split
    · next hn => rw [Nat.toDigits_of_lt_base hn, digitChar_eq hn]
    · next hn =>
      rw [Nat.toDigits_of_base_le (by decide) (Nat.not_lt.mp hn), ih (n / 10) (by omega),
        digitChar_eq (Nat.mod_lt n (by decide))]

theorem decimalText_eq_toString (n : ℕ) : decimalText n = toString n := by
  rw [decimalText, decimal_eq_toDigits, Nat.toString_eq_ofList_toDigits]

theorem decimal_injective {n m : ℕ} (h : decimal n = decimal m) : n = m := by
  rw [← digitsValue_decimal n, h, digitsValue_decimal]

end Number

open Number

namespace Duration

/-! ## The number and the unit -/

/-- No larger unit divides a duration evenly. -/
theorem size_le_of_dvd {d : Duration} {u : Measure} (h : u.size ∣ d.nanos) :
    u.size ≤ d.unit.size := by
  unfold unit
  split
  · cases u <;> decide
  · next hseconds =>
    split
    · cases u with
      | seconds => exact absurd (Nat.mod_eq_zero_of_dvd h) hseconds
      | milliseconds | microseconds | nanoseconds => decide
    · next hmillis =>
      split
      · cases u with
        | seconds => exact absurd (Nat.mod_eq_zero_of_dvd h) hseconds
        | milliseconds => exact absurd (Nat.mod_eq_zero_of_dvd h) hmillis
        | microseconds | nanoseconds => decide
      · next hmicros =>
        cases u with
        | seconds => exact absurd (Nat.mod_eq_zero_of_dvd h) hseconds
        | milliseconds => exact absurd (Nat.mod_eq_zero_of_dvd h) hmillis
        | microseconds => exact absurd (Nat.mod_eq_zero_of_dvd h) hmicros
        | nanoseconds => decide

theorem text_eq_toString (d : Duration) : d.text = toString d.count ++ d.unit.symbol := by
  rw [text, decimalText_eq_toString]

theorem Measure.symbol_injective {u v : Measure} (h : u.symbol = v.symbol) : u = v := by
  have hsame : ofSymbol? u.symbol = ofSymbol? v.symbol := congrArg ofSymbol? h
  rw [ofSymbol?_symbol, ofSymbol?_symbol] at hsame
  exact Option.some.inj hsame

/-- A number with a unit can be taken apart in one way only: the unit does not start with a
digit. -/
theorem number_symbol_injective {n m : ℕ} {u v : Measure}
    (h : toString n ++ u.symbol = toString m ++ v.symbol) : n = m ∧ u = v := by
  have hsplit : ∀ (k : ℕ) (w : Measure),
      splitDigits (toString k ++ w.symbol).toList = (decimal k, w.symbol.toList) := by
    intro k w
    rw [← decimalText_eq_toString, decimalText, String.toList_append, String.toList_ofList]
    exact splitDigits_append (digits_decimal _) fun c hc => Measure.isDigit_of_mem_head? hc
  have hparts : (decimal n, u.symbol.toList) = (decimal m, v.symbol.toList) := by
    rw [← hsplit n u, h, hsplit m v]
  obtain ⟨hnumber, hsymbol⟩ := Prod.mk.inj hparts
  exact ⟨decimal_injective hnumber, Measure.symbol_injective (String.toList_inj.mp hsymbol)⟩

/-! ## Words of a machine -/

/-- A duration as a clock holds it: whole seconds, and nanoseconds that do not make up another. -/
structure Clock where
  secs : UInt64
  subsec : UInt32
  subsec_lt : subsec.toNat < 1000000000

namespace Clock

/-- The duration that a clock shows. -/
def duration (c : Clock) : Duration := ⟨c.secs.toNat * 1000000000 + c.subsec.toNat⟩

/-- The whole number of a unit in the duration, in a word of 128 bits. -/
def total (c : Clock) (u : Measure) : BitVec 128 :=
  c.secs.toBitVec.setWidth 128 * BitVec.ofNat 128 (1000000000 / u.size)
    + (c.subsec / UInt32.ofNat u.size).toBitVec.setWidth 128

/-- The text of the duration, from words alone. -/
def text (c : Clock) : String :=
  if c.subsec = 0 then toString c.secs.toNat ++ "s"
  else if c.total .nanoseconds % 1000000#128 = 0 then
    toString (c.total .milliseconds).toNat ++ "ms"
  else if c.total .nanoseconds % 1000#128 = 0 then
    toString (c.total .microseconds).toNat ++ "us"
  else toString (c.total .nanoseconds).toNat ++ "ns"

variable (c : Clock)

theorem nanos_lt : c.duration.nanos < 2 ^ 64 * 1000000000 := by
  have hsecs : c.secs.toNat < 2 ^ 64 := c.secs.toNat_lt
  have hsubsec := c.subsec_lt
  show c.secs.toNat * 1000000000 + c.subsec.toNat < _
  omega

/-- Every duration of this range is shown by a clock. -/
theorem exists_duration_eq {d : Duration} (h : d.nanos < 2 ^ 64 * 1000000000) :
    ∃ c : Clock, c.duration = d := by
  have hsecs : d.nanos / 1000000000 < 2 ^ 64 := by omega
  have hlt : d.nanos % 1000000000 < 1000000000 := Nat.mod_lt _ (by decide)
  have hsubsec : (UInt32.ofNat (d.nanos % 1000000000)).toNat = d.nanos % 1000000000 :=
    UInt32.toNat_ofNat_of_lt' (Nat.lt_trans hlt (by decide))
  refine ⟨⟨UInt64.ofNat (d.nanos / 1000000000), UInt32.ofNat (d.nanos % 1000000000), ?_⟩, ?_⟩
  · rw [hsubsec]
    exact hlt
  · have hsame : d.nanos / 1000000000 * 1000000000 + d.nanos % 1000000000 = d.nanos := by omega
    apply congrArg Duration.mk
    show (UInt64.ofNat _).toNat * 1000000000 + (UInt32.ofNat _).toNat = _
    rw [hsubsec, UInt64.toNat_ofNat_of_lt' hsecs, hsame]

/-- A word of 128 bits has room for the nanoseconds of any clock. -/
theorem toNat_mul_add {secs : UInt64} {subsec : UInt32} {k : ℕ} (hk : k ≤ 1000000000) :
    (secs.toBitVec.setWidth 128 * BitVec.ofNat 128 k + subsec.toBitVec.setWidth 128).toNat =
      secs.toNat * k + subsec.toNat := by
  have hsecs : secs.toNat < 2 ^ 64 := secs.toNat_lt
  have hsubsec : subsec.toNat < 2 ^ 32 := subsec.toNat_lt
  have hmul : secs.toNat * k ≤ (2 ^ 64 - 1) * 1000000000 :=
    Nat.mul_le_mul (Nat.le_pred_of_lt hsecs) hk
  have hwidths : (secs.toBitVec.setWidth 128).toNat = secs.toNat ∧
      (BitVec.ofNat 128 k).toNat = k ∧ (subsec.toBitVec.setWidth 128).toNat = subsec.toNat := by
    refine ⟨?_, ?_, ?_⟩
    · rw [BitVec.toNat_setWidth, UInt64.toNat_toBitVec, Nat.mod_eq_of_lt (by omega)]
    · rw [BitVec.toNat_ofNat, Nat.mod_eq_of_lt (by omega)]
    · rw [BitVec.toNat_setWidth, UInt32.toNat_toBitVec, Nat.mod_eq_of_lt (by omega)]
  rw [BitVec.toNat_add, BitVec.toNat_mul, hwidths.1, hwidths.2.1, hwidths.2.2,
    Nat.mod_eq_of_lt (by omega), Nat.mod_eq_of_lt (by omega)]

/-- A word holds the whole number of a unit in the duration. -/
theorem toNat_total (u : Measure) : (c.total u).toNat = c.duration.nanos / u.size := by
  have hpart : (c.subsec / UInt32.ofNat u.size).toNat = c.subsec.toNat / u.size := by
    rw [UInt32.toNat_div]
    cases u <;> rfl
  rw [total, toNat_mul_add (Nat.div_le_self _ _), hpart]
  show _ = (c.secs.toNat * 1000000000 + c.subsec.toNat) / u.size
  have hsubsec := c.subsec_lt
  cases u <;> simp only [Measure.size] <;> omega

theorem total_mod_eq_zero_iff (u : Measure) :
    c.total .nanoseconds % BitVec.ofNat 128 u.size = 0 ↔ c.duration.nanos % u.size = 0 := by
  have hsize : (BitVec.ofNat 128 u.size).toNat = u.size := by cases u <;> rfl
  rw [← BitVec.toNat_inj, BitVec.toNat_umod, toNat_total, hsize, Measure.size, Nat.div_one]
  rfl

/-- Whole seconds are shown where the part below a second is zero. -/
theorem subsec_eq_zero_iff : c.subsec = 0 ↔ c.duration.nanos % 1000000000 = 0 := by
  have hsubsec := c.subsec_lt
  rw [← UInt32.toNat_inj]
  show c.subsec.toNat = 0 ↔ (c.secs.toNat * 1000000000 + c.subsec.toNat) % 1000000000 = 0
  omega

theorem toNat_secs : c.secs.toNat = c.duration.nanos / 1000000000 := by
  have hsubsec := c.subsec_lt
  show _ = (c.secs.toNat * 1000000000 + c.subsec.toNat) / 1000000000
  omega

/-- **The words give the text** of the duration, for every duration that a clock can show. -/
theorem text_eq : c.text = c.duration.text := by
  have hseconds := c.subsec_eq_zero_iff
  have hmillis : c.total .nanoseconds % 1000000#128 = 0 ↔ c.duration.nanos % 1000000 = 0 :=
    c.total_mod_eq_zero_iff .milliseconds
  have hmicros : c.total .nanoseconds % 1000#128 = 0 ↔ c.duration.nanos % 1000 = 0 :=
    c.total_mod_eq_zero_iff .microseconds
  rw [text_eq_toString, count, text]
  simp only [hseconds, hmillis, hmicros, toNat_total, toNat_secs, unit]
  -- The same conditions decide the unit on both sides.
  split
  · rfl
  · split
    · rfl
    · split <;> rfl

end Clock

/-! ## Exactness -/

/-- **The text of a duration is exact**, and the only one for it. -/
structure ExactText (d : Duration) : Prop where
  /-- It is a plain decimal number with a unit, -/
  written : d.text = toString d.count ++ d.unit.symbol
  /-- and these make the duration up. -/
  exact : d.count * d.unit.size = d.nanos
  /-- No larger unit would do. -/
  largest : ∀ u : Measure, u.size ∣ d.nanos → u.size ≤ d.unit.size
  /-- It can be taken apart in one way only, -/
  only : ∀ n (u : Measure), d.text = toString n ++ u.symbol → n * u.size = d.nanos
  /-- is read back as the duration, -/
  read : read? d.text = some d
  /-- and belongs to no other duration. -/
  distinct : ∀ e : Duration, e.text = d.text → e = d
  /-- A duration of less than `2 ^ 64` seconds is shown by a clock, -/
  shown : (∃ c : Clock, c.duration = d) ↔ d.nanos < 2 ^ 64 * 1000000000
  /-- and then the text comes from words of a machine, of which none overflows. -/
  words : ∀ c : Clock, c.duration = d → c.text = d.text

/-- **Every duration** has an exact text. -/
theorem exactText (d : Duration) : ExactText d where
  written := text_eq_toString d
  exact := count_mul_size d
  largest _ h := size_le_of_dvd h
  only n u h := by
    rw [text_eq_toString] at h
    obtain ⟨rfl, rfl⟩ := number_symbol_injective h
    exact count_mul_size d
  read := read?_text d
  distinct e h := by
    have hread : some e = some d := by rw [← read?_text e, h, read?_text]
    exact Option.some.inj hread
  shown := by
    constructor
    · rintro ⟨c, rfl⟩
      exact c.nanos_lt
    · exact Clock.exists_duration_eq
  words := by
    rintro c rfl
    exact c.text_eq

example : (Duration.mk 18446744073709551615999999999).text = "18446744073709551615999999999ns" := by
  decide +kernel

end Duration

end FaultInjection
