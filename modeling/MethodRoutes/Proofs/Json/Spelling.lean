import Mathlib.Data.List.Forall2
import Mathlib.Data.Nat.Digits.Defs
import MethodRoutes.Json.Lexeme
import MethodRoutes.Proofs.Except
import MethodRoutes.Proofs.Text.Utf8

/-!
# How strings are spelled

Between its quotation marks a string is a row of items: a byte that stands for itself, a backslash
with a letter, the code unit of a character, or a pair of code units. This file states these as the
rules of a relation between what is written and what it denotes, apart from the reader, and shows
that the reader accepts exactly what the rules allow and gives what they say.

The reader goes through the items one by one, so both directions follow the rules: what is written
is read by an induction on its derivation, and what has been read is derived by an induction on the
length of the text, one item at a time.

Only what a string denotes has to be a text. But then what is written is one as well: every item but
a plain byte denotes a whole character, so the plain bytes between these items are whole characters.

## Main definitions

* `Json.letters`, `Json.SpellsUnit` — letters behind a backslash, and code units
* `Json.Spells` — what is written, and the bytes that it denotes

## Main results

* `Json.readStringFrom_of_spells`, `Json.spells_of_readStringFrom` — the reader and the rules
* `Json.readString_eq_ok_iff` — which strings are read
* `Json.Spells.isText` — a string that denotes a text is written as a text
* `Json.spells_escape` — the rendered form of a text denotes it
-/

namespace MethodRoutes.Json

open Bytes (IsText)

/-- The letters that may follow a backslash, and the bytes that they stand for: quotation mark,
backslash, slash, backspace, form feed, line feed, carriage return and tab. -/
def letters : List (UInt8 × UInt8) :=
  [(0x22, 0x22), (0x5C, 0x5C), (0x2F, 0x2F), (0x62, 0x08), (0x66, 0x0C), (0x6E, 0x0A), (0x72, 0x0D),
    (0x74, 0x09)]

/-- A hexadecimal digit of either case, and what it is worth. -/
def IsHexDigit (b : UInt8) (n : Nat) : Prop :=
  n < 16 ∧ (b = (Nat.digitChar n).toUInt8 ∨ b = (Nat.digitChar n).toUpper.toUInt8)

/-- Four hexadecimal digits, first the most significant one, and what they are worth. -/
def SpellsUnit (digits : Bytes) (n : Nat) : Prop :=
  ∃ a b c d, List.Forall₂ IsHexDigit digits [a, b, c, d] ∧ n = Nat.ofDigits 16 [d, c, b, a]

/-- What may stand between the quotation marks of a string, and the bytes that it denotes. -/
inductive Spells : Bytes → Bytes → Prop
  /-- Nothing denotes nothing. -/
  | nil : Spells [] []
  /-- A byte stands for itself, unless it ends the string, starts an item of another kind or is a
  control character. -/
  | plain {b : UInt8} {written content : Bytes} (printable : ¬ b < 0x20) (quote : b ≠ 0x22)
    (backslash : b ≠ 0x5C) (rest : Spells written content) : Spells (b :: written) (b :: content)
  /-- A backslash and a letter stand for a byte. -/
  | letter {b c : UInt8} {written content : Bytes} (byte : (b, c) ∈ letters)
    (rest : Spells written content) : Spells (0x5C :: b :: written) (c :: content)
  /-- The code of a character stands for it. -/
  | unit {digits written content : Bytes} {c : Char} (code : SpellsUnit digits c.toNat)
    (rest : Spells written content) :
    Spells (0x5C :: 0x75 :: (digits ++ written)) (String.utf8EncodeChar c ++ content)
  /-- The two halves that UTF-16 has for a character beyond the codes of four digits stand for it
  together. -/
  | pair {digits digits' written content : Bytes} {c : Char} (beyond : 0x10000 ≤ c.toNat)
    (high : SpellsUnit digits (0xD800 + (c.toNat - 0x10000) / 0x400))
    (low : SpellsUnit digits' (0xDC00 + (c.toNat - 0x10000) % 0x400))
    (rest : Spells written content) :
    Spells (0x5C :: 0x75 :: (digits ++ 0x5C :: 0x75 :: (digits' ++ written)))
      (String.utf8EncodeChar c ++ content)

variable {b c : UInt8} {content written digits s rest : Bytes} {n h : Nat}

/-! ## Letters and code units -/

theorem mem_letters_iff : (b, c) ∈ letters ↔ simpleEscape? b = some c := by
  have hread : letters.all (fun p => simpleEscape? p.1 = some p.2) = true := by decide
  have hall : ∀ k < 256, ∀ c ∈ simpleEscape? (UInt8.ofNat k), (UInt8.ofNat k, c) ∈ letters := by
    decide +kernel
  refine ⟨fun h => of_decide_eq_true (List.all_eq_true.mp hread _ h), fun h => ?_⟩
  have hb := hall b.toNat b.toNat_lt c
  rw [UInt8.ofNat_toNat] at hb
  exact hb h

theorem isHexDigit_iff : IsHexDigit b n ↔ hexDigit? b = some n := by
  have hread : ∀ n < 16, hexDigit? (Nat.digitChar n).toUInt8 = some n ∧
      hexDigit? (Nat.digitChar n).toUpper.toUInt8 = some n := by decide
  have hall : ∀ k < 256, ∀ n ∈ hexDigit? (UInt8.ofNat k),
      n < 16 ∧ (UInt8.ofNat k = (Nat.digitChar n).toUInt8 ∨
        UInt8.ofNat k = (Nat.digitChar n).toUpper.toUInt8) := by decide +kernel
  constructor
  · rintro ⟨hn, rfl | rfl⟩
    · exact (hread n hn).1
    · exact (hread n hn).2
  · intro h
    have hb := hall b.toNat b.toNat_lt n
    rw [UInt8.ofNat_toNat] at hb
    exact hb h

theorem hexValue?_eq_some_iff {b₁ b₂ b₃ b₄ : UInt8} :
    hexValue? [b₁, b₂, b₃, b₄] = some n ↔ SpellsUnit [b₁, b₂, b₃, b₄] n := by
  simp only [SpellsUnit, List.forall₂_cons, isHexDigit_iff, hexValue?, List.foldlM_cons,
    List.foldlM_nil, Option.bind_eq_bind, Option.bind_eq_some_iff, Option.map_eq_some_iff]
  constructor
  · rintro ⟨-, ⟨w, hw, rfl⟩, -, ⟨x, hx, rfl⟩, -, ⟨y, hy, rfl⟩, -, ⟨z, hz, rfl⟩, hn⟩
    cases hn
    refine ⟨w, x, y, z, ⟨hw, hx, hy, hz, .nil⟩, ?_⟩
    simp only [Nat.ofDigits_cons, Nat.ofDigits_nil]
    omega
  · rintro ⟨w, x, y, z, ⟨hw, hx, hy, hz, -⟩, rfl⟩
    refine ⟨_, ⟨w, hw, rfl⟩, _, ⟨x, hx, rfl⟩, _, ⟨y, hy, rfl⟩, _, ⟨z, hz, rfl⟩, ?_⟩
    simp only [Nat.ofDigits_cons, Nat.ofDigits_nil, pure, Option.some.injEq]
    omega

theorem spellsUnit_iff : SpellsUnit digits n ↔ digits.length = 4 ∧ hexValue? digits = some n := by
  constructor
  · intro h
    obtain ⟨_, _, _, _, hdigits, -⟩ := id h
    match digits, hdigits.length_eq with
    | [_, _, _, _], _ => exact ⟨rfl, hexValue?_eq_some_iff.mpr h⟩
  · rintro ⟨four, hvalue⟩
    match digits, four with
    | [_, _, _, _], _ => exact hexValue?_eq_some_iff.mp hvalue

theorem SpellsUnit.lt (h : SpellsUnit digits n) : n < 0x10000 := by
  obtain ⟨w, x, y, z, hdigits, rfl⟩ := h
  obtain ⟨_, _, ⟨hw, -⟩, hdigits, -⟩ := List.forall₂_cons_right_iff.mp hdigits
  obtain ⟨_, _, ⟨hx, -⟩, hdigits, -⟩ := List.forall₂_cons_right_iff.mp hdigits
  obtain ⟨_, _, ⟨hy, -⟩, hdigits, -⟩ := List.forall₂_cons_right_iff.mp hdigits
  obtain ⟨_, _, ⟨hz, -⟩, -, -⟩ := List.forall₂_cons_right_iff.mp hdigits
  simp only [Nat.ofDigits_cons, Nat.ofDigits_nil]
  omega

/-! ## Characters and their halves -/

/-- The code of a character is no half of a pair. -/
theorem not_isHalf (c : Char) : isHighHalf c.toNat = false ∧ isLowHalf c.toNat = false := by
  have hvalid : c.toNat < 0xD800 ∨ 0xDFFF < c.toNat ∧ c.toNat < 0x110000 := c.valid
  simp only [isHighHalf, isLowHalf, Bool.and_eq_false_iff, decide_eq_false_iff_not]
  omega

/-- The halves of a character are halves, and joined they are its code. -/
theorem joinHalves_eq {c : Char} (beyond : 0x10000 ≤ c.toNat) :
    isHighHalf (0xD800 + (c.toNat - 0x10000) / 0x400) = true ∧
      isLowHalf (0xDC00 + (c.toNat - 0x10000) % 0x400) = true ∧
      joinHalves (0xD800 + (c.toNat - 0x10000) / 0x400) (0xDC00 + (c.toNat - 0x10000) % 0x400) =
        c.toNat := by
  have hvalid : c.toNat < 0xD800 ∨ 0xDFFF < c.toNat ∧ c.toNat < 0x110000 := c.valid
  simp only [isHighHalf, isLowHalf, joinHalves, Bool.and_eq_true, decide_eq_true_eq]
  omega

theorem toNat_ofNat (h : n.isValidChar) : (Char.ofNat n).toNat = n := by
  rw [Char.ofNat, dif_pos h]
  rfl

/-- A code unit that is no half of a pair is the code of a character. -/
theorem Spells.of_unit (four : digits.length = 4) (value : hexValue? digits = some n)
    (high : isHighHalf n = false) (low : isLowHalf n = false) (hrest : Spells written content) :
    Spells (0x5C :: 0x75 :: (digits ++ written))
      (String.utf8EncodeChar (Char.ofNat n) ++ content) := by
  have hcode := spellsUnit_iff.mpr ⟨four, value⟩
  have hvalid : n.isValidChar := by
    have hlt := hcode.lt
    simp only [isHighHalf, isLowHalf, Bool.and_eq_false_iff, decide_eq_false_iff_not] at high low
    rw [Nat.isValidChar]
    omega
  rw [← toNat_ofNat hvalid] at hcode
  exact .unit hcode hrest

/-- Two halves of a pair are those of a character. -/
theorem Spells.of_pair {digits' : Bytes} {n' : Nat} (four : digits.length = 4)
    (four' : digits'.length = 4) (value : hexValue? digits = some n)
    (value' : hexValue? digits' = some n') (high : isHighHalf n = true)
    (low : isLowHalf n' = true) (hrest : Spells written content) :
    Spells (0x5C :: 0x75 :: (digits ++ 0x5C :: 0x75 :: (digits' ++ written)))
      (String.utf8EncodeChar (Char.ofNat (joinHalves n n')) ++ content) := by
  simp only [isHighHalf, isLowHalf, Bool.and_eq_true, decide_eq_true_eq] at high low
  have hjoin : joinHalves n n' = (n - 0xD800) * 0x400 + (n' - 0xDC00) + 0x10000 := rfl
  have hvalid : (joinHalves n n').isValidChar := by
    rw [Nat.isValidChar]
    omega
  refine .pair ?_ (spellsUnit_iff.mpr ⟨four, ?_⟩) (spellsUnit_iff.mpr ⟨four', ?_⟩) hrest
  · rw [toNat_ofNat hvalid]
    omega
  · rw [toNat_ofNat hvalid, value, Option.some.injEq]
    omega
  · rw [toNat_ofNat hvalid, value', Option.some.injEq]
    omega

/-! ## The steps of the reader -/

theorem readStringFrom_quote (content s : Bytes) :
    readStringFrom .plain content (0x22 :: s) = .ok (content.reverse, s) := rfl

theorem readStringFrom_plain (printable : ¬ b < 0x20) (quote : b ≠ 0x22) (backslash : b ≠ 0x5C) :
    readStringFrom .plain content (b :: s) = readStringFrom .plain (b :: content) s := by
  rw [readStringFrom, if_neg quote, if_neg backslash, if_neg printable]

theorem readStringFrom_letter (byte : simpleEscape? b = some c) :
    readStringFrom .plain content (0x5C :: b :: s) = readStringFrom .plain (c :: content) s := by
  have hbackslash : readStringFrom .plain content (0x5C :: b :: s) =
      readStringFrom .escape content (b :: s) := rfl
  rw [hbackslash, readStringFrom, byte]

/-- What comes of four digits. -/
def afterDigits (content digits : Bytes) (high : Option Nat) (s : Bytes) :
    Except Fault (Bytes × Bytes) :=
  match hexValue? digits, high with
  | none, _ => .error (.before .invalidEscape s)
  | some n, none =>
    if isLowHalf n then .error (.before .loneSurrogate s)
    else if isHighHalf n then readStringFrom (.pairEscape n) content s
    else readStringFrom .plain (encodedReverse n ++ content) s
  | some n, some h =>
    if isLowHalf n then readStringFrom .plain (encodedReverse (joinHalves h n) ++ content) s
    else .error (.before .loneSurrogate s)

/-- Four digits are taken at once. -/
theorem readStringFrom_digits (four : digits.length = 4) (high : Option Nat) :
    readStringFrom (.unit high []) content (digits ++ s) = afterDigits content digits high s := by
  match digits, four with
  | [_, _, _, _], _ => rfl

/-- A text that ends among the digits is refused. -/
theorem readStringFrom_short (short : s.length < 4) (high : Option Nat) :
    readStringFrom (.unit high []) content s = .error (.before .endInString []) := by
  match s, short with
  | [], _ => rfl
  | [_], _ => rfl
  | [_, _], _ => rfl
  | [_, _, _], _ => rfl

theorem readStringFrom_unit (four : digits.length = 4) (value : hexValue? digits = some n)
    (high : isHighHalf n = false) (low : isLowHalf n = false) :
    readStringFrom .plain content (0x5C :: 0x75 :: (digits ++ s)) =
      readStringFrom .plain (encodedReverse n ++ content) s := by
  have hmark : readStringFrom .plain content (0x5C :: 0x75 :: (digits ++ s)) =
      readStringFrom (.unit none []) content (digits ++ s) := rfl
  rw [hmark, readStringFrom_digits four]
  simp [afterDigits, value, high, low]

/-- No code unit is both halves of a pair. -/
theorem isLowHalf_of_isHighHalf (high : isHighHalf n = true) : isLowHalf n = false := by
  simp only [isHighHalf, Bool.and_eq_true, decide_eq_true_eq] at high
  simp only [isLowHalf, Bool.and_eq_false_iff, decide_eq_false_iff_not]
  exact .inl (by omega)

theorem readStringFrom_high (four : digits.length = 4) (value : hexValue? digits = some n)
    (high : isHighHalf n = true) :
    readStringFrom .plain content (0x5C :: 0x75 :: (digits ++ s)) =
      readStringFrom (.pairEscape n) content s := by
  have hmark : readStringFrom .plain content (0x5C :: 0x75 :: (digits ++ s)) =
      readStringFrom (.unit none []) content (digits ++ s) := rfl
  rw [hmark, readStringFrom_digits four]
  simp [afterDigits, value, high, isLowHalf_of_isHighHalf high]

theorem readStringFrom_low (four : digits.length = 4) (value : hexValue? digits = some n)
    (low : isLowHalf n = true) :
    readStringFrom (.pairEscape h) content (0x5C :: 0x75 :: (digits ++ s)) =
      readStringFrom .plain (encodedReverse (joinHalves h n) ++ content) s := by
  have hmark : readStringFrom (.pairEscape h) content (0x5C :: 0x75 :: (digits ++ s)) =
      readStringFrom (.unit (some h) []) content (digits ++ s) := rfl
  rw [hmark, readStringFrom_digits four]
  simp [afterDigits, value, low]

/-! ## The reader and the rules -/

/-- What the rules allow is read, up to the quotation mark behind it. -/
theorem readStringFrom_of_spells (hspells : Spells written content) (before rest : Bytes) :
    readStringFrom .plain before (written ++ 0x22 :: rest) =
      .ok (before.reverse ++ content, rest) := by
  induction hspells generalizing before with
  | nil => rw [List.nil_append, readStringFrom_quote, List.append_nil]
  | plain printable quote backslash _ ih =>
    rw [List.cons_append, readStringFrom_plain printable quote backslash, ih]
    simp
  | letter byte _ ih =>
    rw [List.cons_append, List.cons_append, readStringFrom_letter (mem_letters_iff.mp byte), ih]
    simp
  | @unit _ _ _ c code _ ih =>
    obtain ⟨four, value⟩ := spellsUnit_iff.mp code
    obtain ⟨high, low⟩ := not_isHalf c
    rw [List.cons_append, List.cons_append, List.append_assoc,
      readStringFrom_unit four value high low, ih]
    simp [encodedReverse]
  | pair beyond high low _ ih =>
    obtain ⟨four, value⟩ := spellsUnit_iff.mp high
    obtain ⟨four', value'⟩ := spellsUnit_iff.mp low
    obtain ⟨hhigh, hlow, hjoin⟩ := joinHalves_eq beyond
    simp only [List.cons_append, List.append_assoc]
    rw [readStringFrom_high four value hhigh, readStringFrom_low four' value' hlow, hjoin, ih]
    simp [encodedReverse]

section Success

variable {p : Bytes × Bytes}

/-- Behind the mark of a code unit there are four digits. -/
theorem exists_digits_of_readStringFrom {high : Option Nat}
    (h : readStringFrom (.unit high []) content s = .ok p) :
    ∃ digits tail, s = digits ++ tail ∧ digits.length = 4 ∧
      afterDigits content digits high tail = .ok p := by
  by_cases short : s.length < 4
  · rw [readStringFrom_short short] at h
    cases h
  · have four : (s.take 4).length = 4 := by
      rw [List.length_take]
      omega
    refine ⟨s.take 4, s.drop 4, (List.take_append_drop 4 s).symm, four, ?_⟩
    rwa [← readStringFrom_digits four, List.take_append_drop]

theorem of_afterDigits_none (h : afterDigits content digits none s = .ok p) :
    ∃ n, hexValue? digits = some n ∧ isLowHalf n = false ∧
      (isHighHalf n = true ∧ readStringFrom (.pairEscape n) content s = .ok p ∨
        isHighHalf n = false ∧
          readStringFrom .plain (encodedReverse n ++ content) s = .ok p) := by
  cases hvalue : hexValue? digits with
  | none => simp [afterDigits, hvalue] at h
  | some n =>
    cases hlow : isLowHalf n with
    | true => simp [afterDigits, hvalue, hlow] at h
    | false => cases hhigh : isHighHalf n <;> simp_all [afterDigits]

theorem of_afterDigits_some {high : Nat} (h : afterDigits content digits (some high) s = .ok p) :
    ∃ n, hexValue? digits = some n ∧ isLowHalf n = true ∧
      readStringFrom .plain (encodedReverse (joinHalves high n) ++ content) s = .ok p := by
  cases hvalue : hexValue? digits with
  | none => simp [afterDigits, hvalue] at h
  | some n => cases hlow : isLowHalf n <;> simp_all [afterDigits]

/-- Behind the first half of a pair there is the mark of the second one. -/
theorem exists_mark_of_readStringFrom {high : Nat}
    (h : readStringFrom (.pairEscape high) content s = .ok p) :
    ∃ tail, s = 0x5C :: 0x75 :: tail ∧
      readStringFrom (.unit (some high) []) content tail = .ok p := by
  match s with
  | [] => cases h
  | [b] =>
    by_cases hb : b = 0x5C
    · subst hb
      cases h
    · simp [readStringFrom, hb] at h
  | b :: c :: tail =>
    by_cases hb : b = 0x5C
    · by_cases hc : c = 0x75
      · subst hb hc
        exact ⟨tail, rfl, h⟩
      · simp [readStringFrom, hb, hc] at h
    · simp [readStringFrom, hb] at h

/-- What stands between characters: the end of the string, a byte that stands for itself, a
backslash with a letter, or the mark of a code unit. -/
theorem cases_of_readStringFrom (h : readStringFrom .plain content s = .ok p) :
    (∃ tail, s = 0x22 :: tail ∧ p = (content.reverse, tail)) ∨
    (∃ b tail, s = b :: tail ∧ ¬ b < 0x20 ∧ b ≠ 0x22 ∧ b ≠ 0x5C ∧
      readStringFrom .plain (b :: content) tail = .ok p) ∨
    (∃ b c tail, s = 0x5C :: b :: tail ∧ simpleEscape? b = some c ∧
      readStringFrom .plain (c :: content) tail = .ok p) ∨
    ∃ tail, s = 0x5C :: 0x75 :: tail ∧ readStringFrom (.unit none []) content tail = .ok p := by
  match s with
  | [] => cases h
  | b :: tail =>
    by_cases quote : b = 0x22
    · subst quote
      cases h
      exact .inl ⟨tail, rfl, rfl⟩
    · by_cases backslash : b = 0x5C
      · subst backslash
        match tail with
        | [] => cases h
        | b :: tail =>
          have hescape : readStringFrom .escape content (b :: tail) = .ok p := h
          rw [readStringFrom] at hescape
          split at hescape
          · next c byte => exact .inr (.inr (.inl ⟨b, c, tail, rfl, byte, hescape⟩))
          · split at hescape
            · next hmark =>
              subst hmark
              exact .inr (.inr (.inr ⟨tail, rfl, hescape⟩))
            · cases hescape
      · by_cases printable : b < 0x20
        · simp [readStringFrom, quote, backslash, printable] at h
        · rw [readStringFrom_plain printable quote backslash] at h
          exact .inr (.inl ⟨b, tail, rfl, printable, quote, backslash, h⟩)

end Success

/-- What has been read is what the rules allow, and it denotes what they say. -/
theorem spells_of_readStringFrom {before : Bytes}
    (h : readStringFrom .plain before s = .ok (content, rest)) :
    ∃ written denoted, s = written ++ 0x22 :: rest ∧ Spells written denoted ∧
      content = before.reverse ++ denoted := by
  -- Each item is shorter than the text, and what it denotes moves over to what was there before.
  induction hlength : s.length using Nat.strongRecOn generalizing s before with
  | _ length ih =>
    subst hlength
    rcases cases_of_readStringFrom h with ⟨tail, rfl, hp⟩ |
      ⟨b, tail, rfl, printable, quote, backslash, htail⟩ | ⟨b, c, tail, rfl, byte, htail⟩ |
      ⟨tail, rfl, htail⟩
    · cases hp
      exact ⟨[], [], rfl, .nil, (List.append_nil _).symm⟩
    · obtain ⟨written, denoted, rfl, hspells, rfl⟩ := ih _ (by simp) htail rfl
      exact ⟨b :: written, b :: denoted, rfl, .plain printable quote backslash hspells, by simp⟩
    · obtain ⟨written, denoted, rfl, hspells, rfl⟩ :=
        ih _ (by simp only [List.length_cons]; omega) htail rfl
      exact ⟨0x5C :: b :: written, c :: denoted, rfl, .letter (mem_letters_iff.mpr byte) hspells,
        by simp⟩
    · obtain ⟨digits, tail, rfl, four, hafter⟩ := exists_digits_of_readStringFrom htail
      obtain ⟨n, value, low, ⟨high, hpair⟩ | ⟨high, htail⟩⟩ := of_afterDigits_none hafter
      · obtain ⟨tail, rfl, hunit⟩ := exists_mark_of_readStringFrom hpair
        obtain ⟨digits', tail, rfl, four', hafter'⟩ := exists_digits_of_readStringFrom hunit
        obtain ⟨n', value', low', htail⟩ := of_afterDigits_some hafter'
        obtain ⟨written, denoted, rfl, hspells, hcontent⟩ :=
          ih _ (by simp only [List.length_cons, List.length_append]; omega) htail rfl
        refine ⟨0x5C :: 0x75 :: (digits ++ 0x5C :: 0x75 :: (digits' ++ written)), _, ?_,
          .of_pair four four' value value' high low' hspells, by simp [hcontent, encodedReverse]⟩
        simp only [List.cons_append, List.append_assoc]
      · obtain ⟨written, denoted, rfl, hspells, rfl⟩ :=
          ih _ (by simp only [List.length_cons, List.length_append]; omega) htail rfl
        refine ⟨0x5C :: 0x75 :: (digits ++ written), _, ?_, .of_unit four value high low hspells,
          by simp [encodedReverse]⟩
        simp only [List.cons_append, List.append_assoc]

/-- A string is read exactly if it is spelled by the rules, and what it denotes is a text. -/
theorem readString_eq_ok_iff {text : String} :
    readString s = .ok (text, rest) ↔
      ∃ written, s = written ++ 0x22 :: rest ∧ Spells written (Bytes.ofText text) := by
  constructor
  · intro h
    rw [readString] at h
    split at h
    · cases h
    · next content tail hread =>
      split at h
      · next htext =>
        cases h
        obtain ⟨written, denoted, hs, hspells, hcontent⟩ := spells_of_readStringFrom hread
        have hdenoted : denoted = Bytes.ofText text := by
          rw [← Bytes.text?_eq_some_iff.mp htext, hcontent]
          rfl
        exact ⟨written, hs, hdenoted ▸ hspells⟩
      · cases h
  · rintro ⟨written, rfl, hspells⟩
    rw [readString, readStringFrom_of_spells hspells [] rest]
    simp

/-! ## Strings inside of a text -/

theorem lt_of_mem_letters (h : (b, c) ∈ letters) : b < 0x80 ∧ c < 0x80 := by
  have hall : letters.all (fun p => p.1 < 0x80 ∧ p.2 < 0x80) = true := by decide
  exact of_decide_eq_true (List.all_eq_true.mp hall _ h)

theorem IsHexDigit.lt (h : IsHexDigit b n) : b < 0x80 := by
  have hall : ∀ n < 16, (Nat.digitChar n).toUInt8 < 0x80 ∧
      (Nat.digitChar n).toUpper.toUInt8 < 0x80 := by decide
  obtain ⟨hn, rfl | rfl⟩ := h
  · exact (hall n hn).1
  · exact (hall n hn).2

/-- Hexadecimal digits are bytes of the ASCII range. -/
theorem SpellsUnit.forall_lt (h : SpellsUnit digits n) : ∀ b ∈ digits, b < 0x80 := by
  obtain ⟨w, x, y, z, hdigits, -⟩ := h
  generalize [w, x, y, z] = values at hdigits
  induction hdigits with
  | nil => exact nofun
  | cons hdigit _ ih => exact List.forall_mem_cons.mpr ⟨hdigit.lt, ih⟩

/-- The mark and the digits of a code unit are bytes of the ASCII range. -/
theorem isText_unit (code : SpellsUnit digits n) (hwritten : IsText written) :
    IsText (0x5C :: 0x75 :: (digits ++ written)) := by
  have hdigits : IsText digits := Bytes.isText_of_forall_lt code.forall_lt
  exact ((hdigits.append hwritten).cons (by decide)).cons (by decide)

/-- A string that denotes a text is written as a text, whatever stands before both. -/
theorem Spells.isText_append (hspells : Spells written content) (before : Bytes)
    (h : IsText (before ++ content)) : IsText (before ++ written) := by
  -- Bytes that stand for themselves go to those before; any other item denotes a whole character.
  induction hspells generalizing before with
  | nil => exact h
  | @plain b written content _ _ _ _ ih =>
    have hwritten := ih (before ++ [b])
    rw [List.append_assoc, List.append_assoc] at hwritten
    exact hwritten h
  | @letter b c written content byte _ ih =>
    obtain ⟨hb, hc⟩ := lt_of_mem_letters byte
    rw [← List.singleton_append, ← Bytes.utf8EncodeChar_ofNat_of_lt hc] at h
    obtain ⟨hbefore, hcontent⟩ := h.of_append
    exact hbefore.append (((ih [] hcontent).cons hb).cons (by decide))
  | unit code _ ih =>
    obtain ⟨hbefore, hcontent⟩ := h.of_append
    exact hbefore.append (isText_unit code (ih [] hcontent))
  | pair _ high low _ ih =>
    obtain ⟨hbefore, hcontent⟩ := h.of_append
    exact hbefore.append (isText_unit high (isText_unit low (ih [] hcontent)))

theorem Spells.isText {text : String} (hspells : Spells written (Bytes.ofText text)) :
    IsText written := hspells.isText_append [] ⟨text, rfl⟩

/-! ## Rendered texts -/

/-- Bytes that stand for themselves may precede anything. -/
theorem Spells.append {bytes : Bytes}
    (hplain : ∀ b ∈ bytes, ¬ b < 0x20 ∧ b ≠ 0x22 ∧ b ≠ 0x5C) (hspells : Spells written content) :
    Spells (bytes ++ written) (bytes ++ content) := by
  induction bytes with
  | nil => exact hspells
  | cons b bytes ih =>
    obtain ⟨printable, quote, backslash⟩ := hplain b List.mem_cons_self
    exact .plain printable quote backslash (ih fun b hb => hplain b (List.mem_cons_of_mem _ hb))

/-- The bytes of a character that is not escaped stand for themselves. -/
theorem plain_of_mem_utf8EncodeChar {c : Char} (quote : c ≠ '"') (backslash : c ≠ '\\')
    (printable : ¬ c.toNat < 0x20) (hb : b ∈ String.utf8EncodeChar c) :
    ¬ b < 0x20 ∧ b ≠ 0x22 ∧ b ≠ 0x5C := by
  by_cases hc : c.toNat < 0x80
  · have hcode : b = UInt8.ofNat c.toNat := by
      rw [Bytes.utf8EncodeChar_of_lt hc] at hb
      exact List.mem_singleton.mp hb
    have hnat : b.toNat = c.toNat := by
      rw [hcode]
      exact UInt8.toNat_ofNat_of_lt' (Nat.lt_trans hc (by decide))
    refine ⟨?_, ?_, ?_⟩
    · rw [UInt8.lt_iff_toNat_lt, hnat]
      exact printable
    · rintro rfl
      exact quote (Char.toNat_inj.mp hnat.symm)
    · rintro rfl
      exact backslash (Char.toNat_inj.mp hnat.symm)
  · have hhigh : 0x80 ≤ b.toNat := by
      have hle := Bytes.le_of_mem_utf8EncodeChar (Nat.le_of_not_lt hc) hb
      exact UInt8.le_iff_toNat_le.mp hle
    refine ⟨?_, ?_, ?_⟩
    · rw [UInt8.lt_iff_toNat_lt]
      exact Nat.not_lt.mpr (Nat.le_trans (by decide) hhigh)
    · rintro rfl
      exact absurd hhigh (by decide)
    · rintro rfl
      exact absurd hhigh (by decide)

/-- The four digits of a control character denote its code. -/
theorem hexValue?_control : ∀ n < 0x20, hexValue? (Bytes.ofChars
    ['0', '0', hexDigit (n / 16), hexDigit (n % 16)]) = some n := by
  decide

/-- The rendered form of a character denotes its bytes. -/
theorem Spells.escapeChar_append (c : Char) (hspells : Spells written content) :
    Spells (Bytes.ofChars (escapeChar c) ++ written) (String.utf8EncodeChar c ++ content) := by
  -- Seven characters have a letter of their own.
  by_cases hletter : c = '"' ∨ c = '\\' ∨ c = '\x08' ∨ c = '\x0c' ∨ c = '\n' ∨ c = '\r' ∨ c = '\t'
  · rcases hletter with rfl | rfl | rfl | rfl | rfl | rfl | rfl
    all_goals exact .letter (mem_letters_iff.mpr rfl) hspells
  · simp only [not_or] at hletter
    obtain ⟨quote, backslash, hb, hf, hn, hr, ht⟩ := hletter
    by_cases control : c.toNat < 0x20
    · have hescape : escapeChar c =
          '\\' :: 'u' :: ['0', '0', hexDigit (c.toNat / 16), hexDigit (c.toNat % 16)] := by
        simp only [escapeChar, quote, backslash, hb, hf, hn, hr, ht, control, if_true, if_false]
      have hbytes : Bytes.ofChars (escapeChar c) = 0x5C :: 0x75 :: Bytes.ofChars
          ['0', '0', hexDigit (c.toNat / 16), hexDigit (c.toNat % 16)] := by
        rw [hescape]
        rfl
      have hvalue := hexValue?_control c.toNat control
      have four : ∀ n < 0x20, (Bytes.ofChars
          ['0', '0', hexDigit (n / 16), hexDigit (n % 16)]).length = 4 := by decide
      have high : ∀ n < 0x20, isHighHalf n = false := by decide
      have low : ∀ n < 0x20, isLowHalf n = false := by decide
      have hunit := Spells.of_unit (four _ control) hvalue (high _ control) (low _ control) hspells
      rw [Char.ofNat_toNat] at hunit
      rw [hbytes]
      exact hunit
    · have hescape : escapeChar c = [c] := by
        simp only [escapeChar, quote, backslash, hb, hf, hn, hr, ht, control, if_false]
      have hbytes : Bytes.ofChars (escapeChar c) = String.utf8EncodeChar c := by
        rw [hescape, Bytes.ofChars_cons, Bytes.ofChars_nil, List.append_nil]
      rw [hbytes]
      exact .append (fun b => plain_of_mem_utf8EncodeChar quote backslash control) hspells

/-- The rendered form of a text denotes it. -/
theorem spells_escape (cs : List Char) :
    Spells (Bytes.ofChars (cs.flatMap escapeChar)) (Bytes.ofChars cs) := by
  induction cs with
  | nil => exact .nil
  | cons c cs ih =>
    rw [List.flatMap_cons, Bytes.ofChars_append, Bytes.ofChars_cons]
    exact ih.escapeChar_append c

/-- A text is read back from its rendered form, from behind the opening quotation mark. -/
theorem readString_escape (text : String) (rest : Bytes) :
    readString (Bytes.ofChars (text.toList.flatMap escapeChar) ++ 0x22 :: rest) =
      .ok (text, rest) := by
  refine readString_eq_ok_iff.mpr ⟨_, rfl, ?_⟩
  rw [Bytes.ofText_eq_ofChars]
  exact spells_escape text.toList

end MethodRoutes.Json
