import Mathlib.Data.List.Induction
import Mathlib.Data.List.TakeWhile
import Mathlib.Data.Nat.Digits.Defs
import MethodRoutes.Json.Lexeme
import MethodRoutes.Proofs.Decimal.Conversion

/-!
# Digits and what they are worth

Digits in a row are worth the number that they are the decimal digits of. A number that is no whole
number of a machine word is made of fewer digits than are written, where there is no room for all of
them: the longest start of the digits before the point that is worth a word, and behind it the
longest start of those after the point. How many digits have been left out then tells the
exponent.

## Main definitions

* `Json.IsDigits` — digits, and at least one of them
* `Json.decimalValue` — what digits are worth
* `Json.Keeps` — the digits that a machine word has room for
* `Json.Converts` — the floating-point number that digits are converted to

## Main results

* `Json.digitsValue_eq`, `Json.keeps_gatherDigits` — the reader's way through the digits
* `Json.toFloat?_decimalOf_eq_some_iff` — the conversion, by the digits that are kept
-/

namespace MethodRoutes.Json

/-- Digits, and at least one of them. -/
def IsDigits (s : Bytes) : Prop := s ≠ [] ∧ ∀ b ∈ s, 0x30 ≤ b ∧ b ≤ 0x39

/-- The number that the digits are the decimal digits of, first the most significant one. -/
def decimalValue (digits : Bytes) : Nat :=
  Nat.ofDigits 10 (digits.reverse.map fun b => b.toNat - 0x30)

/-- Behind the digits before them, as many digits are kept as a machine word has room for. -/
structure Keeps (before digits kept : Bytes) : Prop where
  /-- The first digits are kept. -/
  start : kept <+: digits
  /-- They fit. -/
  fits : decimalValue (before ++ kept) < 0x10000000000000000
  /-- No more of them fit. -/
  longest : ∀ more, more <+: digits → decimalValue (before ++ more) < 0x10000000000000000 →
    more.length ≤ kept.length

/-- The floating-point number that digits before and behind a point are converted to, with an
exponent. The digits that are kept are taken for a whole number, and the exponent counts the digits
that have been left out before the point, and those that are kept behind it. -/
inductive Converts (whole fraction : Bytes) (exponent : Int) : Float → Prop
  /-- The exponent is within its limit, unless there are zeros only. -/
  | intro {kept keptBehind : Bytes} {x : Float} (before : Keeps [] whole kept)
    (behind : Keeps kept fraction keptBehind)
    (limit : exponent < 0x80000000 ∨ decimalValue (kept ++ keptBehind) = 0)
    (scales : Scales (decimalValue (kept ++ keptBehind)).toUInt64.toFloat
      (whole.length - kept.length - keptBehind.length + exponent) x) :
    Converts whole fraction exponent x

variable {before digits kept keptBehind whole fraction rest s t : Bytes} {b c : UInt8} {n : Nat}

/-! ## Digits -/

theorem isDigit_iff : isDigit b = true ↔ 0x30 ≤ b ∧ b ≤ 0x39 := by
  simp [isDigit]

theorem IsDigits.isDigit (h : IsDigits s) : ∀ b ∈ s, isDigit b = true :=
  fun b hb => isDigit_iff.mpr (h.2 b hb)

/-- A digit is none of the marks of a text. -/
theorem ne_of_isDigit (h : isDigit b = true) (hc : isDigit c = false) : b ≠ c := by
  rintro rfl
  rw [h] at hc
  cases hc

/-- The digits that a text starts with, up to the first byte that is none. -/
theorem exists_digits_of_isDigit (hb : isDigit b = true) (s : Bytes) :
    ∃ digits t, b :: s = digits ++ t ∧ IsDigits digits ∧ ∀ c ∈ t.head?, isDigit c = false := by
  refine ⟨(b :: s).takeWhile isDigit, (b :: s).dropWhile isDigit,
    List.takeWhile_append_dropWhile.symm,
    ⟨?_, fun c hc => isDigit_iff.mp (List.mem_takeWhile_imp hc)⟩, ?_⟩
  · rw [List.takeWhile_cons_of_pos hb]
    exact List.cons_ne_nil b _
  · intro c hc
    have hstop := List.head?_dropWhile_not isDigit (b :: s)
    rw [hc] at hstop
    simpa using hstop

/-- Digits are taken up to the first byte that is none. -/
theorem takeWhile_digits (h : ∀ b ∈ whole, isDigit b = true)
    (hrest : ∀ b ∈ rest.head?, isDigit b = false) :
    (whole ++ rest).takeWhile isDigit = whole ∧ (whole ++ rest).dropWhile isDigit = rest := by
  have hstop : rest.takeWhile isDigit = [] ∧ rest.dropWhile isDigit = rest := by
    cases rest with
    | nil => exact ⟨rfl, rfl⟩
    | cons b s => simp [hrest b rfl]
  rw [List.takeWhile_append_of_pos h, List.dropWhile_append_of_pos h, hstop.1, hstop.2,
    List.append_nil]
  exact ⟨rfl, rfl⟩

/-! ## What digits are worth -/

@[simp] theorem decimalValue_nil : decimalValue [] = 0 := rfl

theorem decimalValue_concat (s : Bytes) (b : UInt8) :
    decimalValue (s ++ [b]) = 10 * decimalValue s + (b.toNat - 0x30) := by
  rw [decimalValue, List.reverse_concat, List.map_cons, Nat.ofDigits_cons, ← decimalValue]
  exact Nat.add_comm _ _

theorem digitsValue_eq (s : Bytes) : digitsValue s = decimalValue s := by
  induction s using List.reverseRecOn with
  | nil => rfl
  | append_singleton s b ih =>
    rw [decimalValue_concat, ← ih, digitsValue, List.foldl_append, ← digitsValue]
    rfl

/-- With more digits behind them, digits are not worth less. -/
theorem decimalValue_le_append (s t : Bytes) : decimalValue s ≤ decimalValue (s ++ t) := by
  induction t using List.reverseRecOn with
  | nil => rw [List.append_nil]
  | append_singleton t b ih =>
    rw [← List.append_assoc, decimalValue_concat]
    omega

/-! ## The digits that are kept -/

/-- There is only one way to keep as many digits as there is room for. -/
theorem Keeps.eq {other : Bytes} (h : Keeps before digits kept) (h' : Keeps before digits other) :
    kept = other := by
  have hle := h'.longest kept h.start h.fits
  have hge := h.longest other h'.start h'.fits
  have hprefix := List.prefix_of_prefix_length_le h.start h'.start hle
  exact hprefix.eq_of_length (Nat.le_antisymm hle hge)

/-- The reader gathers the digits that there is room for. -/
theorem keeps_gatherDigits (hbefore : decimalValue before < 0x10000000000000000) (digits : Bytes) :
    ∃ kept, Keeps before digits kept ∧ gatherDigits (decimalValue before) digits =
      (decimalValue (before ++ kept), digits.length - kept.length) := by
  induction digits generalizing before with
  | nil =>
    refine ⟨[], ⟨List.prefix_rfl, by rwa [List.append_nil], fun more hmore _ => ?_⟩, ?_⟩
    · rw [List.prefix_nil.mp hmore]
    · rw [gatherDigits, List.append_nil]
      rfl
  | cons b digits ih =>
    rw [gatherDigits, ← decimalValue_concat, wordBound]
    by_cases hfull : 0x10000000000000000 ≤ decimalValue (before ++ [b])
    · -- The first digit does not fit, and so no start with it does.
      refine ⟨[], ⟨List.nil_prefix, by rwa [List.append_nil], fun more hmore hfits => ?_⟩, ?_⟩
      · cases more with
        | nil => exact Nat.le_refl 0
        | cons c more =>
          obtain ⟨rfl, -⟩ := List.cons_prefix_cons.mp hmore
          have hle := decimalValue_le_append (before ++ [c]) more
          rw [List.append_assoc, List.singleton_append] at hle
          omega
      · rw [if_pos hfull, List.append_nil]
        rfl
    · obtain ⟨kept, hkept, hgather⟩ := ih (Nat.lt_of_not_le hfull)
      rw [List.append_assoc, List.singleton_append] at hgather
      refine ⟨b :: kept, ⟨List.cons_prefix_cons.mpr ⟨rfl, hkept.start⟩, ?_, ?_⟩, ?_⟩
      · have hfits := hkept.fits
        rwa [List.append_assoc, List.singleton_append] at hfits
      · intro more hmore hfits
        cases more with
        | nil => exact Nat.zero_le _
        | cons c more =>
          obtain ⟨rfl, hmore'⟩ := List.cons_prefix_cons.mp hmore
          refine Nat.succ_le_succ (hkept.longest more hmore' ?_)
          rwa [List.append_assoc, List.singleton_append]
      · rw [if_neg hfull, hgather, List.length_cons, List.length_cons, Nat.add_sub_add_right]

/-- The decimal of digits before and behind a point is made of those that are kept. -/
theorem exists_decimalOf (whole fraction : Bytes) :
    ∃ kept keptBehind, Keeps [] whole kept ∧ Keeps kept fraction keptBehind ∧
      decimalOf whole fraction = ⟨decimalValue (kept ++ keptBehind),
        whole.length - kept.length - keptBehind.length⟩ := by
  have hnil : decimalValue [] < 0x10000000000000000 := by decide
  obtain ⟨kept, hkept, hgather⟩ := keeps_gatherDigits hnil whole
  have hfits := hkept.fits
  rw [List.nil_append] at hgather hfits
  obtain ⟨keptBehind, hbehind, hgather'⟩ := keeps_gatherDigits hfits fraction
  refine ⟨kept, keptBehind, hkept, hbehind, ?_⟩
  rw [decimalValue_nil] at hgather
  simp only [decimalOf, hgather, hgather', Decimal.mk.injEq, true_and]
  have hle := hkept.start.length_le
  have hle' := hbehind.start.length_le
  omega

/-- Digits with an exponent are converted to what the rules say. -/
theorem toFloat?_decimalOf_eq_some_iff {exponent : Int} {x : Float} :
    (¬ ((decimalOf whole fraction).digits ≠ 0 ∧ (exponentBound : Int) ≤ exponent) ∧
      Decimal.toFloat? ⟨(decimalOf whole fraction).digits,
        (decimalOf whole fraction).exponent + exponent⟩ = some x) ↔
      Converts whole fraction exponent x := by
  obtain ⟨kept, keptBehind, hkept, hbehind, hdecimal⟩ := exists_decimalOf whole fraction
  rw [hdecimal, Decimal.toFloat?_eq_some_iff]
  dsimp only
  have hlimit : ¬ (decimalValue (kept ++ keptBehind) ≠ 0 ∧ (exponentBound : Int) ≤ exponent) ↔
      exponent < 0x80000000 ∨ decimalValue (kept ++ keptBehind) = 0 := by
    rw [exponentBound]
    omega
  rw [hlimit]
  constructor
  · rintro ⟨hlimit, hscales⟩
    exact .intro hkept hbehind hlimit hscales
  · rintro ⟨hkept', hbehind', hlimit', hscales⟩
    obtain rfl := hkept.eq hkept'
    obtain rfl := hbehind.eq hbehind'
    exact ⟨hlimit', hscales⟩

end MethodRoutes.Json
