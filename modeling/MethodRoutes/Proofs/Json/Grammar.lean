import MethodRoutes.Json.Format
import MethodRoutes.Proofs.Json.Marks
import MethodRoutes.Proofs.Json.Objects
import MethodRoutes.Proofs.Json.Spelling

/-!
# The grammar of JSON texts

This file states which bytes are a JSON text and which value they denote, as rules of a relation
that knows nothing of the reader. A value may have blanks around it wherever it stands. A list is
made of its items with commas between them, and an object of keys and values in the same way; of two
fields with one key the later one counts. The limits of the reader are part of the rules: how deep
lists and objects may lie in one another, and which numbers there are.

Only strings hold bytes beyond ASCII, and a string that denotes a text is written as one. So
whatever denotes a value is a text.

## Main definitions

* `Json.IsStringDocument` — strings with blanks around them
* `Json.Denotes` — a text denotes a value, up to a depth

## Main results

* `Json.Denotes.exists_starts` — what the text of a value starts with
* `Json.Denotes.isText` — what denotes a value is the UTF-8 form of a text
-/

namespace MethodRoutes.Json

open Bytes (IsText isText_of_forall_lt isText_nil)

/-! ## The rules -/

/-- The text is a string that denotes `text`, with or without blanks around it. -/
def IsStringDocument (input : Bytes) (text : String) : Prop :=
  ∃ before written after, input = before ++ 0x22 :: (written ++ 0x22 :: after) ∧
    IsBlank before ∧ Spells written (Bytes.ofText text) ∧ IsBlank after

/-- A field of an object: the texts of its key and of its value, and what they denote. -/
structure Member where
  /-- The key as it is written, with the blanks around it. -/
  keyText : Bytes
  /-- The key. -/
  key : String
  /-- The value as it is written, with the blanks around it. -/
  valueText : Bytes
  /-- The value. -/
  value : Value

/-- The text of a field. -/
def Member.text (m : Member) : Bytes := m.keyText ++ 0x3A :: m.valueText

/-- Texts with commas between them. -/
def separated (texts : List Bytes) : Bytes := List.intercalate [0x2C] texts

/-- A text in which lists and objects lie at most `depth` deep in one another denotes a value. -/
inductive Denotes : Nat → Bytes → Value → Prop
  /-- The word `null`. -/
  | null {depth : Nat} : Denotes depth [0x6E, 0x75, 0x6C, 0x6C] .null
  /-- The word `true`. -/
  | yes {depth : Nat} : Denotes depth [0x74, 0x72, 0x75, 0x65] (.bool true)
  /-- The word `false`. -/
  | no {depth : Nat} : Denotes depth [0x66, 0x61, 0x6C, 0x73, 0x65] (.bool false)
  /-- A number that is not out of range. -/
  | number {depth : Nat} {written : Bytes} {n : Number} (h : SpellsNumber written n) :
    Denotes depth written (.number n)
  /-- A string whose content is a text. -/
  | string {depth : Nat} {written : Bytes} {text : String}
    (h : Spells written (Bytes.ofText text)) :
    Denotes depth (0x22 :: (written ++ [0x22])) (.string text)
  /-- A list without items. -/
  | emptyList {depth : Nat} {blanks : Bytes} (h : IsBlank blanks) :
    Denotes (depth + 1) (0x5B :: (blanks ++ [0x5D])) (.array [])
  /-- A list of at least one item, one level deeper than its items. -/
  | list {depth : Nat} {items : List (Bytes × Value)} (nonempty : items ≠ [])
    (denotes : ∀ p ∈ items, Denotes depth p.1 p.2) :
    Denotes (depth + 1) (0x5B :: (separated (items.map Prod.fst) ++ [0x5D]))
      (.array (items.map Prod.snd))
  /-- An object without fields. -/
  | emptyObject {depth : Nat} {blanks : Bytes} (h : IsBlank blanks) :
    Denotes (depth + 1) (0x7B :: (blanks ++ [0x7D])) (.object [])
  /-- An object of at least one field, one level deeper than the values of its fields. -/
  | object {depth : Nat} {members : List Member} {fields : List (String × Value)}
    (nonempty : members ≠ []) (keys : ∀ m ∈ members, IsStringDocument m.keyText m.key)
    (denotes : ∀ m ∈ members, Denotes depth m.valueText m.value)
    (merges : Merges (members.map fun m => (m.key, m.value)) fields) :
    Denotes (depth + 1) (0x7B :: (separated (members.map Member.text) ++ [0x7D])) (.object fields)
  /-- A value with blanks around it. -/
  | padded {depth : Nat} {before written after : Bytes} {v : Value} (hbefore : IsBlank before)
    (hafter : IsBlank after) (h : Denotes depth written v) :
    Denotes depth (before ++ (written ++ after)) v

variable {s t rest before after blanks written : Bytes} {b : UInt8} {v : Value} {depth : Nat}

/-! ## Texts with commas -/

/-- What follows the first one of texts with commas between them. -/
def commaBefore (texts : List Bytes) : Bytes := texts.flatMap (0x2C :: ·)

theorem separated_cons (first : Bytes) (texts : List Bytes) :
    separated (first :: texts) = first ++ commaBefore texts := by
  induction texts generalizing first with
  | nil => simp [separated, commaBefore, List.intercalate]
  | cons second texts ih =>
    rw [separated, List.intercalate_cons_cons, ← separated, ih]
    simp [commaBefore]

theorem commaBefore_cons (first : Bytes) (texts : List Bytes) :
    commaBefore (first :: texts) = 0x2C :: (first ++ commaBefore texts) := rfl

/-- There is a comma for each of the texts. -/
theorem length_le_length_commaBefore (texts : List Bytes) :
    texts.length ≤ (commaBefore texts).length := by
  induction texts with
  | nil => exact Nat.le_refl 0
  | cons first texts ih =>
    rw [commaBefore_cons]
    simp only [List.length_cons, List.length_append]
    omega

/-- Behind an item there is a comma or a bracket, and no number goes on with one of them. -/
theorem stops_commaBefore (texts : List Bytes) {b : UInt8} (hb : b = 0x5D ∨ b = 0x7D)
    (rest : Bytes) : Stops (commaBefore texts ++ b :: rest) := by
  cases texts with
  | nil =>
    rintro c ⟨⟩
    rcases hb with rfl | rfl
    all_goals exact ⟨rfl, by decide, by decide, by decide⟩
  | cons first texts =>
    rintro c ⟨⟩
    exact ⟨rfl, by decide, by decide, by decide⟩

/-! ## How values start -/

/-- A value starts behind the blanks before it. -/
theorem Denotes.exists_starts (h : Denotes depth written v) :
    ∃ before s, written = before ++ s ∧ IsBlank before ∧ Starts s := by
  have hmark : ∀ {b : UInt8} {s : Bytes}, isBlank b = false → b ≠ 0x5D →
      ∃ before t, b :: s = before ++ t ∧ IsBlank before ∧ Starts t :=
    fun hblank hbracket => ⟨[], _, rfl, isBlank_nil, _, _, rfl, hblank, hbracket⟩
  induction h with
  | number h =>
    cases h with
    | positive h =>
      obtain ⟨b, s, rfl, hb⟩ := h.exists_cons
      exact hmark (isBlank_of_isDigit hb) (ne_of_isDigit hb rfl)
    | negative => exact hmark rfl (by decide)
  | @padded _ before _ after _ hbefore _ _ ih =>
    obtain ⟨blanks, s, rfl, hblanks, hs⟩ := ih
    refine ⟨before ++ blanks, s ++ after, ?_, hbefore.append hblanks, hs.append after⟩
    simp only [List.append_assoc]
  | _ => exact hmark rfl (by decide)

/-! ## What denotes a value is a text -/

theorem IsBlank.isText (h : IsBlank s) : IsText s := by
  apply isText_of_forall_lt
  intro b hb
  rcases h b hb with rfl | rfl | rfl | rfl
  all_goals decide

theorem IsDigits.isText (h : IsDigits s) : IsText s := by
  apply isText_of_forall_lt
  intro b hb
  exact UInt8.lt_of_le_of_lt (h.2 b hb).2 (by decide)

theorem SpellsFraction.isText {point fraction : Bytes} (h : SpellsFraction point fraction) :
    IsText point := by
  cases h with
  | absent => exact isText_nil
  | point hdigits => exact hdigits.isText.cons (by decide)

theorem SpellsExponent.isText {mark : Bytes} {exponent : Option Int}
    (h : SpellsExponent mark exponent) : IsText mark := by
  cases h with
  | absent => exact isText_nil
  | @mark b sign digits down hb hsign hdigits =>
    have hlt : b < 0x80 := by
      rcases hb with rfl | rfl
      all_goals decide
    have hsigned : IsText (sign ++ digits) := by
      cases hsign with
      | absent => exact hdigits.isText
      | plus | minus => exact hdigits.isText.cons (by decide)
    exact hsigned.cons hlt

theorem SpellsMagnitude.isText {negative : Bool} {n : Number}
    (h : SpellsMagnitude negative written n) : IsText written := by
  obtain ⟨hwhole, hpoint, hmark, -⟩ := h
  exact hwhole.1.isText.append (hpoint.isText.append hmark.isText)

theorem SpellsNumber.isText {n : Number} (h : SpellsNumber written n) : IsText written := by
  cases h with
  | positive h => exact h.isText
  | negative h => exact h.isText.cons (by decide)

theorem IsStringDocument.isText {text : String} (h : IsStringDocument written text) :
    IsText written := by
  obtain ⟨before, spelled, after, rfl, hbefore, hspells, hafter⟩ := h
  have hstring := hspells.isText.append (hafter.isText.cons (by decide : (0x22 : UInt8) < 0x80))
  exact hbefore.isText.append (hstring.cons (by decide))

/-- Texts with commas between them are a text. -/
theorem isText_separated {texts : List Bytes} (h : ∀ t ∈ texts, IsText t) :
    IsText (separated texts) := by
  have hmore : ∀ texts, (∀ t ∈ texts, IsText t) → IsText (commaBefore texts) := by
    intro texts h
    induction texts with
    | nil => exact isText_nil
    | cons t texts ih =>
      have hrest := ih fun u hu => h u (List.mem_cons_of_mem t hu)
      exact ((h t List.mem_cons_self).append hrest).cons (by decide)
  cases texts with
  | nil => exact isText_nil
  | cons t texts =>
    rw [separated_cons]
    exact (h t List.mem_cons_self).append (hmore texts fun u hu => h u (List.mem_cons_of_mem t hu))

/-- What denotes a value is a text. -/
theorem Denotes.isText (h : Denotes depth written v) : IsText written := by
  have hclosed : ∀ {s : Bytes} {opening closing : UInt8}, IsText s → opening < 0x80 →
      closing < 0x80 → IsText (opening :: (s ++ [closing])) :=
    fun hs hopening hclosing => (hs.append (isText_nil.cons hclosing)).cons hopening
  induction h with
  | null => exact ⟨"null", rfl⟩
  | yes => exact ⟨"true", rfl⟩
  | no => exact ⟨"false", rfl⟩
  | number h => exact h.isText
  | string h => exact hclosed h.isText (by decide) (by decide)
  | emptyList h | emptyObject h => exact hclosed h.isText (by decide) (by decide)
  | list _ _ ih =>
    exact hclosed (isText_separated (List.forall_mem_map.mpr ih)) (by decide) (by decide)
  | object _ keys _ _ ih =>
    refine hclosed (isText_separated (List.forall_mem_map.mpr fun m hm => ?_)) (by decide)
      (by decide)
    exact (keys m hm).isText.append ((ih m hm).cons (by decide))
  | padded hbefore hafter _ ih => exact hbefore.isText.append (ih.append hafter.isText)

end MethodRoutes.Json
