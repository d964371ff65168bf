import Mathlib.Data.List.Basic
import MethodRoutes.Text.Utf8

/-!
# The bytes of characters

The UTF-8 form of a text is that of its characters, one after another. A character of the ASCII
range is a single byte, its code; every byte of another character lies above that range. So a
reader that waits for an ASCII mark never takes a part of another character for it.

The first byte of a character is never one of its further bytes. So where the bytes of a character
stand inside of a text, they are a character of it: what precedes them is a text, and so is what
follows them.

## Main definitions

* `Bytes.ofChars` — the UTF-8 form of characters
* `Bytes.IsText` — bytes that are the UTF-8 form of a text

## Main results

* `Bytes.ofText_eq_ofChars`, `Bytes.ofText_ofList` — the UTF-8 form of a text
* `Bytes.text?_eq_some_iff` — which bytes are the UTF-8 form of a text
* `Bytes.ofChars_cons_of_lt`, `Bytes.le_of_mem_utf8EncodeChar` — the bytes of a character
* `Bytes.mem_ofText_iff_of_lt` — the bytes of the ASCII range are those of its characters
* `Bytes.exists_ofChars_of_append` — the bytes of a character inside of a text are one of its
  characters
-/

namespace MethodRoutes.Bytes

/-- The UTF-8 form of characters. -/
def ofChars (cs : List Char) : Bytes := cs.flatMap String.utf8EncodeChar

variable {c : Char} {cs : List Char} {text : String}

@[simp] theorem ofChars_nil : ofChars [] = [] := rfl

theorem ofChars_cons : ofChars (c :: cs) = String.utf8EncodeChar c ++ ofChars cs := rfl

@[simp] theorem ofChars_append (cs ds : List Char) :
    ofChars (cs ++ ds) = ofChars cs ++ ofChars ds := List.flatMap_append

theorem ofText_ofList (cs : List Char) : ofText (String.ofList cs) = ofChars cs := by
  rw [ofText, String.toByteArray_ofList, List.utf8Encode, List.data_toByteArray]
  rfl

theorem ofText_eq_ofChars (text : String) : ofText text = ofChars text.toList := by
  rw [← ofText_ofList, String.ofList_toList]

theorem ofText_append (s t : String) : ofText (s ++ t) = ofText s ++ ofText t := by
  rw [ofText_eq_ofChars, String.toList_append, ofChars_append, ofText_eq_ofChars, ofText_eq_ofChars]

/-- Bytes are read as a text exactly if they are its UTF-8 form. -/
theorem text?_eq_some_iff {b : Bytes} : text? b = some text ↔ b = ofText text := by
  constructor
  · intro h
    rw [text?, String.fromUTF8?] at h
    split at h
    · next hvalid =>
      rw [← Option.some.inj h]
      rfl
    · cases h
  · rintro rfl
    exact text?_ofText text

theorem ofText_eq_nil_iff : ofText text = [] ↔ text = "" := by
  constructor
  · intro h
    have hempty : text? (ofText text) = some "" := by rw [h]; rfl
    rw [text?_ofText] at hempty
    exact Option.some.inj hempty
  · rintro rfl
    rfl

/-! ## The bytes of a character -/

theorem utf8EncodeChar_of_lt (h : c.toNat < 0x80) :
    String.utf8EncodeChar c = [UInt8.ofNat c.toNat] := by
  have hle : c.val.toNat ≤ 127 := Nat.le_of_lt_succ h
  rw [String.utf8EncodeChar]
  exact if_pos hle

/-- A character of the ASCII range is the byte of its code. -/
theorem ofChars_cons_of_lt (h : c.toNat < 0x80) :
    ofChars (c :: cs) = UInt8.ofNat c.toNat :: ofChars cs := by
  rw [ofChars_cons, utf8EncodeChar_of_lt h, List.singleton_append]

/-- What is added to the leading bits of a byte keeps it out of the ASCII range. -/
theorem le_ofNat_add {n m : Nat} (hm : 0x80 ≤ m) (h : n + m < 0x100) :
    0x80 ≤ UInt8.ofNat (n + m) := by
  rw [UInt8.le_iff_toNat_le, UInt8.toNat_ofNat_of_lt' h]
  exact Nat.le_trans hm (Nat.le_add_left m n)

/-- No byte of a character beyond the ASCII range is one of ASCII. -/
theorem le_of_mem_utf8EncodeChar {b : UInt8} (h : 0x80 ≤ c.toNat)
    (hb : b ∈ String.utf8EncodeChar c) : 0x80 ≤ b := by
  have hnot : ¬ c.val.toNat ≤ 127 := Nat.not_le_of_lt h
  rw [String.utf8EncodeChar] at hb
  simp only [hnot, if_false] at hb
  split at hb
  · rcases List.mem_pair.mp hb with rfl | rfl
    · exact le_ofNat_add (by decide) (by omega)
    · exact le_ofNat_add (by decide) (by omega)
  · split at hb
    · simp only [List.mem_cons, List.not_mem_nil, or_false] at hb
      rcases hb with rfl | rfl | rfl
      all_goals exact le_ofNat_add (by decide) (by omega)
    · simp only [List.mem_cons, List.not_mem_nil, or_false] at hb
      rcases hb with rfl | rfl | rfl | rfl
      all_goals exact le_ofNat_add (by decide) (by omega)

/-! ## Characters inside of a text -/

variable {d : Char} {p q : Bytes}

/-- Bytes start with at most one character. -/
theorem eq_of_utf8EncodeChar_append
    (h : String.utf8EncodeChar c ++ p = String.utf8EncodeChar d ++ q) : c = d ∧ p = q := by
  have hdecode : ∀ (c : Char) (p : Bytes),
      (String.utf8EncodeChar c ++ p).toByteArray.utf8DecodeChar? 0 = some c := by
    intro c p
    rw [List.toByteArray_append]
    exact ByteArray.utf8DecodeChar?_utf8EncodeChar_append
  obtain rfl : c = d := by
    apply Option.some.inj
    rw [← hdecode c p, h, hdecode d q]
  exact ⟨rfl, List.append_cancel_left h⟩

/-- A byte that starts a character is none of the further bytes of another one. -/
theorem eq_nil_of_utf8EncodeChar_eq_append {x : UInt8} {before after : Bytes}
    (hx : x.IsUTF8FirstByte) (h : String.utf8EncodeChar d = before ++ x :: after) :
    before = [] := by
  have hlt : before.length < (String.utf8EncodeChar d).length := by simp [h]
  have hget : (String.utf8EncodeChar d)[before.length] = x := by simp [h]
  rw [← hget, UInt8.isUTF8FirstByte_getElem_utf8EncodeChar] at hx
  exact List.eq_nil_of_length_eq_zero hx

theorem exists_utf8EncodeChar_eq_cons (c : Char) :
    ∃ x s, String.utf8EncodeChar c = x :: s ∧ x.IsUTF8FirstByte := by
  obtain ⟨x, s, hcons⟩ := List.exists_cons_of_ne_nil (String.utf8EncodeChar_ne_nil (c := c))
  have hpos : 0 < (String.utf8EncodeChar c).length := by simp [hcons]
  have hget : (String.utf8EncodeChar c)[0] = x := by simp [hcons]
  exact ⟨x, s, hcons, hget ▸ UInt8.isUTF8FirstByte_getElem_utf8EncodeChar.mpr rfl⟩

/-- The bytes of a character inside of a text are one of its characters. -/
theorem exists_ofChars_of_append (h : p ++ (String.utf8EncodeChar c ++ q) = ofChars cs) :
    ∃ ds es, p = ofChars ds ∧ q = ofChars es ∧ cs = ds ++ c :: es := by
  induction cs generalizing p with
  | nil =>
    have hnil := (List.append_eq_nil_iff.mp (List.append_eq_nil_iff.mp h).2).1
    exact absurd hnil String.utf8EncodeChar_ne_nil
  | cons d cs ih =>
    have hbehind : ∀ b, ofChars cs = b ++ (String.utf8EncodeChar c ++ q) →
        ∃ ds es, String.utf8EncodeChar d ++ b = ofChars ds ∧ q = ofChars es ∧
          d :: cs = ds ++ c :: es := by
      intro b hcs
      obtain ⟨ds, es, hds, hes, hsplit⟩ := ih hcs.symm
      exact ⟨d :: ds, es, by rw [ofChars_cons, hds], hes, by rw [hsplit, List.cons_append]⟩
    rw [ofChars_cons] at h
    rcases List.append_eq_append_iff.mp h with ⟨b, hd, hq⟩ | ⟨b, rfl, hcs⟩
    · cases b with
      | nil =>
        -- The character starts right behind the first one of the text.
        rw [List.append_nil] at hd
        rw [← hd]
        simpa using hbehind [] hq.symm
      | cons y b =>
        -- It starts inside of the first one, so it is the first one.
        obtain ⟨x, s, hcons, hx⟩ := exists_utf8EncodeChar_eq_cons c
        have hxy : x = y := by
          rw [hcons, List.cons_append, List.cons_append, List.cons.injEq] at hq
          exact hq.1
        obtain rfl := eq_nil_of_utf8EncodeChar_eq_append hx (hxy ▸ hd)
        obtain ⟨rfl, rfl⟩ := eq_of_utf8EncodeChar_append h
        exact ⟨[], cs, rfl, rfl, rfl⟩
    · exact hbehind b hcs

/-! ## Which bytes are texts -/

/-- The bytes are the UTF-8 form of a text. -/
def IsText (b : Bytes) : Prop := ∃ text, b = ofText text

theorem isText_iff {b : Bytes} : IsText b ↔ ∃ cs, b = ofChars cs := by
  constructor
  · rintro ⟨text, rfl⟩
    exact ⟨text.toList, ofText_eq_ofChars text⟩
  · rintro ⟨cs, rfl⟩
    exact ⟨String.ofList cs, (ofText_ofList cs).symm⟩

theorem IsText.append (hp : IsText p) (hq : IsText q) : IsText (p ++ q) := by
  rw [isText_iff] at hp hq ⊢
  obtain ⟨cs, rfl⟩ := hp
  obtain ⟨ds, rfl⟩ := hq
  exact ⟨cs ++ ds, (ofChars_append cs ds).symm⟩

theorem isText_nil : IsText [] := ⟨"", rfl⟩

/-- A byte of the ASCII range is a character. -/
theorem utf8EncodeChar_ofNat_of_lt {b : UInt8} (h : b < 0x80) :
    String.utf8EncodeChar (Char.ofNat b.toNat) = [b] := by
  have hb : b.toNat < 0x80 := UInt8.lt_iff_toNat_lt.mp h
  have hcode : (Char.ofNat b.toNat).toNat = b.toNat := by
    have hall : ∀ n < 0x80, (Char.ofNat n).toNat = n := by decide
    exact hall _ hb
  rw [utf8EncodeChar_of_lt (by rw [hcode]; exact hb), hcode, UInt8.ofNat_toNat]

/-- A byte of the ASCII range is one of a text exactly if its character is. -/
theorem mem_ofText_iff_of_lt {b : UInt8} (h : b < 0x80) :
    b ∈ ofText text ↔ Char.ofNat b.toNat ∈ text.toList := by
  rw [ofText_eq_ofChars, ofChars, List.mem_flatMap]
  constructor
  · rintro ⟨c, hc, hb⟩
    -- The bytes of other characters lie above the range.
    have hlt : c.toNat < 0x80 := by
      by_contra hle
      exact absurd h (UInt8.not_lt.mpr (le_of_mem_utf8EncodeChar (Nat.not_lt.mp hle) hb))
    rw [utf8EncodeChar_of_lt hlt, List.mem_singleton] at hb
    rw [hb, UInt8.toNat_ofNat_of_lt' (Nat.lt_trans hlt (by decide)), Char.ofNat_toNat]
    exact hc
  · intro hc
    refine ⟨_, hc, ?_⟩
    rw [utf8EncodeChar_ofNat_of_lt h]
    exact List.mem_singleton_self b

/-- A byte of the ASCII range may stand before a text. -/
theorem IsText.cons {b : UInt8} (hp : IsText p) (hb : b < 0x80) : IsText (b :: p) := by
  rw [isText_iff] at hp ⊢
  obtain ⟨cs, rfl⟩ := hp
  refine ⟨Char.ofNat b.toNat :: cs, ?_⟩
  rw [ofChars_cons, utf8EncodeChar_ofNat_of_lt hb, List.singleton_append]

/-- Bytes of the ASCII range are a text. -/
theorem isText_of_forall_lt (h : ∀ b ∈ p, b < 0x80) : IsText p := by
  induction p with
  | nil => exact isText_nil
  | cons b p ih =>
    exact (ih fun c hc => h c (List.mem_cons_of_mem b hc)).cons (h b List.mem_cons_self)

/-- What stands around a character of a text is a text. -/
theorem IsText.of_append (h : IsText (p ++ (String.utf8EncodeChar c ++ q))) :
    IsText p ∧ IsText q := by
  obtain ⟨cs, hcs⟩ := isText_iff.mp h
  obtain ⟨ds, es, hds, hes, -⟩ := exists_ofChars_of_append hcs
  exact ⟨isText_iff.mpr ⟨ds, hds⟩, isText_iff.mpr ⟨es, hes⟩⟩

end MethodRoutes.Bytes
