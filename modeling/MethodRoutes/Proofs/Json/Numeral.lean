import MethodRoutes.Proofs.Destination.Scan
import MethodRoutes.Proofs.Json.Marks
import MethodRoutes.Proofs.Text.Utf8

/-!
# Whole numbers in a JSON text

A whole number is written as its decimal digits, after a minus sign if it is negative. These are
the digits of a number by the rules, because only zero is written with a leading zero, and they
denote the number that they were made from.

## Main definitions

* `Json.numeral` — the digits of a number as bytes
* `Json.Ends` — what stands behind a value

## Main results

* `Json.exists_numeral_eq_cons`, `Json.digitsValue_numeral` — how numerals start and what they are
  worth
* `Json.spells_numeral` — a numeral denotes the whole number that its value is kept as
* `Json.spells_render` — the text of a whole number of a machine word denotes it
-/

namespace MethodRoutes.Json

/-- The decimal digits of a number. -/
def numeral (n : Nat) : Bytes := Bytes.ofChars (Nat.toDigits 10 n)

/-- Behind a value the text ends, or goes on with a comma or a closing bracket. -/
def Ends (s : Bytes) : Prop := ∀ b ∈ s.head?, b = 0x2C ∨ b = 0x5D ∨ b = 0x7D

theorem ends_nil : Ends [] := nofun

variable {b : UInt8} {s rest : Bytes} {n : Nat}

/-- No number goes on with what may stand behind a value. -/
theorem Ends.stops (h : Ends s) : Stops s := by
  intro b hb
  rcases h b hb with rfl | rfl | rfl
  all_goals exact ⟨rfl, by decide, by decide, by decide⟩

/-! ## Numerals -/

/-- The byte of a decimal digit. -/
theorem ofChars_digits {cs : List Char} (h : ∀ c ∈ cs, c.isDigit = true) :
    Bytes.ofChars cs = cs.map fun c => UInt8.ofNat c.toNat := by
  induction cs with
  | nil => rfl
  | cons c cs ih =>
    have hc : c.toNat < 0x80 := by
      have hdigit := h c List.mem_cons_self
      simp only [Char.isDigit, Bool.and_eq_true, decide_eq_true_eq] at hdigit
      exact Nat.lt_of_le_of_lt (UInt32.le_iff_toNat_le.mp hdigit.2) (by decide)
    rw [Bytes.ofChars_cons_of_lt hc, ih fun d hd => h d (List.mem_cons_of_mem c hd), List.map_cons]

theorem numeral_eq_map (n : Nat) :
    numeral n = (Nat.toDigits 10 n).map fun c => UInt8.ofNat c.toNat :=
  ofChars_digits fun _ hc => Nat.isDigit_of_mem_toDigits (by decide) (by decide) hc

/-- The code of a decimal digit lies between those of zero and nine. -/
theorem toNat_of_isDigit {c : Char} (h : c.isDigit = true) :
    0x30 ≤ c.toNat ∧ c.toNat ≤ 0x39 ∧ (UInt8.ofNat c.toNat).toNat = c.toNat := by
  simp only [Char.isDigit, Bool.and_eq_true, decide_eq_true_eq] at h
  have hlow : 0x30 ≤ c.toNat := UInt32.le_iff_toNat_le.mp h.1
  have hhigh : c.toNat ≤ 0x39 := UInt32.le_iff_toNat_le.mp h.2
  exact ⟨hlow, hhigh, UInt8.toNat_ofNat_of_lt' (by change c.toNat < 256; omega)⟩

theorem isDigit_of_mem_numeral (h : b ∈ numeral n) : isDigit b = true := by
  rw [numeral_eq_map] at h
  obtain ⟨c, hc, rfl⟩ := List.mem_map.mp h
  obtain ⟨hlow, hhigh, hcode⟩ :=
    toNat_of_isDigit (Nat.isDigit_of_mem_toDigits (by decide) (by decide) hc)
  simp only [isDigit, Bool.and_eq_true, decide_eq_true_eq, UInt8.le_iff_toNat_le, hcode]
  exact ⟨hlow, hhigh⟩

/-- A numeral is worth the number that it was made from. -/
theorem digitsValue_numeral (n : Nat) : digitsValue (numeral n) = n := by
  have hstep : ∀ (cs : List Char) (start : Nat), (∀ c ∈ cs, c.isDigit = true) →
      (cs.map fun c => UInt8.ofNat c.toNat).foldl (fun n b => 10 * n + (b.toNat - 0x30)) start =
        Nat.ofDigitChars 10 cs start := by
    intro cs start h
    rw [Nat.ofDigitChars_eq_foldl]
    induction cs generalizing start with
    | nil => rfl
    | cons c cs ih =>
      obtain ⟨-, -, hcode⟩ := toNat_of_isDigit (h c List.mem_cons_self)
      rw [List.map_cons, List.foldl_cons, List.foldl_cons, hcode]
      exact ih _ fun d hd => h d (List.mem_cons_of_mem c hd)
  rw [digitsValue, numeral_eq_map, hstep _ _ fun c hc =>
    Nat.isDigit_of_mem_toDigits (by decide) (by decide) hc]
  exact Nat.ofDigitChars_ten_toDigits

/-- Only zero is written with a leading zero. -/
theorem head_toDigits_ne_zero (h : 0 < n) : ∀ c ∈ (Nat.toDigits 10 n).head?, c ≠ '0' := by
  induction n using Nat.strongRecOn with
  | _ n ih =>
    rw [Nat.toDigits_eq_if (by decide)]
    split
    · next hlt =>
      have hdigit : ∀ k < 10, 0 < k → Nat.digitChar k ≠ '0' := by decide
      intro c hc
      cases hc
      exact hdigit n hlt h
    · next hge =>
      -- The leading digit is that of the number without its last digit.
      rw [List.head?_append_of_ne_nil _ Nat.toDigits_ne_nil]
      exact ih (n / 10) (by omega) (by omega)

/-- A numeral starts with a digit, and if that is zero, nothing follows it. -/
theorem exists_numeral_eq_cons (n : Nat) :
    ∃ b s, numeral n = b :: s ∧ isDigit b = true ∧ (b = 0x30 → s = []) := by
  obtain ⟨c, cs, hdigits⟩ := List.exists_cons_of_ne_nil (Nat.toDigits_ne_nil (n := n) (b := 10))
  have hcons : numeral n = UInt8.ofNat c.toNat :: cs.map fun c => UInt8.ofNat c.toNat := by
    rw [numeral_eq_map, hdigits, List.map_cons]
  have hfirst : isDigit (UInt8.ofNat c.toNat) = true :=
    isDigit_of_mem_numeral (n := n) (by rw [hcons]; exact List.mem_cons_self)
  refine ⟨_, _, hcons, hfirst, fun hzero => ?_⟩
  rcases Nat.eq_zero_or_pos n with rfl | hpos
  · rw [Nat.toDigits_zero] at hdigits
    cases hdigits
    rfl
  · have hc : c.isDigit = true :=
      Nat.isDigit_of_mem_toDigits (by decide) (by decide) (hdigits ▸ List.mem_cons_self)
    have hcode : c.toNat = '0'.toNat := by
      rw [← (toNat_of_isDigit hc).2.2, hzero]
      rfl
    exact absurd (Char.toNat_inj.mp hcode) (head_toDigits_ne_zero hpos c (by rw [hdigits]; rfl))

/-! ## What a numeral denotes -/

theorem isWholePart_numeral (n : Nat) : IsWholePart (numeral n) := by
  obtain ⟨b, s, hcons, -, hzero⟩ := exists_numeral_eq_cons n
  refine ⟨⟨?_, fun c hc => isDigit_iff.mp (isDigit_of_mem_numeral hc)⟩, fun hhead => ?_⟩
  · rw [hcons]
    exact List.cons_ne_nil b s
  · rw [hcons] at hhead ⊢
    obtain rfl := Option.some.inj hhead
    rw [hzero rfl]

/-- A numeral denotes the whole number that its value is kept as. -/
theorem spells_numeral {negative : Bool} {value : Int}
    (hvalue : wholeNumber? negative n = some value) :
    SpellsMagnitude negative (numeral n) (.integer value) := by
  have hparts : SpellsMagnitude negative (numeral n ++ ([] ++ [])) (.integer value) := by
    refine .parts (isWholePart_numeral n) .absent .absent (amounts_iff.mpr ?_)
    rw [numberValue?, if_pos ⟨rfl, rfl⟩, digitsValue_numeral, hvalue]
  rwa [List.append_nil, List.append_nil] at hparts

/-! ## Whole numbers as values -/

/-- The numbers that are kept exactly: those of a signed or an unsigned machine word. -/
def IsWord (n : Int) : Prop := -0x8000000000000000 ≤ n ∧ n < 0x10000000000000000

theorem ofChars_render_ofNat (m : Nat) :
    Bytes.ofChars (Number.integer (.ofNat m)).render = numeral m :=
  congrArg Bytes.ofChars (Segment.toList_toString m)

theorem ofChars_render_negSucc (m : Nat) :
    Bytes.ofChars (Number.integer (.negSucc m)).render = 0x2D :: numeral (m + 1) := by
  have hchars : (Number.integer (.negSucc m)).render = '-' :: (toString (m + 1)).toList :=
    String.toList_append
  rw [hchars, Segment.toList_toString]
  rfl

/-- The text of a whole number of a machine word denotes it. -/
theorem spells_render {n : Int} (hn : IsWord n) :
    SpellsNumber (Bytes.ofChars (Number.integer n).render) (.integer n) := by
  cases n with
  | ofNat m =>
    rw [ofChars_render_ofNat]
    exact .positive (spells_numeral (if_pos (Int.ofNat_lt.mp hn.2)))
  | negSucc m =>
    have hbound : 2 * (m + 1) ≤ wordBound := by
      have hlow := hn.1
      rw [wordBound]
      omega
    rw [ofChars_render_negSucc]
    refine .negative (spells_numeral ?_)
    rw [wholeNumber?, if_pos rfl, if_pos ⟨Nat.succ_pos m, hbound⟩]
    rfl

end MethodRoutes.Json
