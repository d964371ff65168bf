import Mathlib.Data.List.TakeWhile
import MethodRoutes.Json.Document
import MethodRoutes.Proofs.Json.Number

/-!
# The marks of a JSON text

Between the parts of a text there are blanks, brackets, commas and colons. This file says what the
readers make of them: where the parts of a list or an object start and where they end, what may
stand before them, and what one step of the readers of lists and objects does.

## Main definitions

* `Json.IsBlank` — nothing but blanks
* `Json.Starts` — a value can start here

## Main results

* `Json.nextItem_first`, `Json.nextItem_comma`, `Json.nextItem_close` and their likes for keys —
  which marks are passed over
* `Json.cases_of_nextItem`, `Json.cases_of_nextKey`, `Json.readColon_eq_ok_iff` — what has been
  passed over
* `Json.readItemsFrom_eq_ok_iff`, `Json.readFieldsFrom_eq_ok_iff` — one step of the readers
-/

namespace MethodRoutes.Json

/-- Nothing but blanks: spaces, tabs, line feeds and carriage returns. -/
def IsBlank (s : Bytes) : Prop := ∀ b ∈ s, b = 0x20 ∨ b = 0x09 ∨ b = 0x0A ∨ b = 0x0D

variable {α : Type} {word s t rest before blanks : Bytes} {b : UInt8} {fuel : Nat} {first : Bool}

/-! ## Blanks and words -/

theorem isBlank_iff : isBlank b = true ↔ b = 0x20 ∨ b = 0x09 ∨ b = 0x0A ∨ b = 0x0D := by
  simp [isBlank, or_assoc]

theorem isBlank_nil : IsBlank [] := nofun

theorem IsBlank.append (hs : IsBlank s) (ht : IsBlank t) : IsBlank (s ++ t) := by
  intro b hb
  rcases List.mem_append.mp hb with hb | hb
  · exact hs b hb
  · exact ht b hb

theorem skipBlanks_eq_nil_iff : skipBlanks s = [] ↔ IsBlank s := by
  simp only [skipBlanks, List.dropWhile_eq_nil_iff, isBlank_iff, IsBlank]

theorem skipBlanks_append (h : IsBlank before) (s : Bytes) :
    skipBlanks (before ++ s) = skipBlanks s :=
  List.dropWhile_append_of_pos fun b hb => isBlank_iff.mpr (h b hb)

theorem skipBlanks_cons (h : isBlank b = false) (s : Bytes) : skipBlanks (b :: s) = b :: s :=
  List.dropWhile_cons_of_neg (by simp [h])

/-- The blanks before the first byte that is none. -/
theorem exists_blanks_of_skipBlanks (h : skipBlanks s = b :: t) :
    ∃ before, s = before ++ b :: t ∧ IsBlank before := by
  refine ⟨s.takeWhile isBlank, ?_, fun c hc => isBlank_iff.mp (List.mem_takeWhile_imp hc)⟩
  rw [← h]
  exact List.takeWhile_append_dropWhile.symm

theorem isBlank_of_isDigit (h : isDigit b = true) : isBlank b = false := by
  simp only [isBlank, Bool.or_eq_false_iff, decide_eq_false_iff_not]
  exact ⟨⟨⟨ne_of_isDigit h rfl, ne_of_isDigit h rfl⟩, ne_of_isDigit h rfl⟩, ne_of_isDigit h rfl⟩

/-- No number goes on with a blank. -/
theorem IsBlank.stops_append (h : IsBlank blanks) (hrest : Stops rest) :
    Stops (blanks ++ rest) := by
  cases blanks with
  | nil => exact hrest
  | cons b blanks =>
    rintro c ⟨⟩
    rcases h b List.mem_cons_self with rfl | rfl | rfl | rfl
    all_goals exact ⟨rfl, by decide, by decide, by decide⟩

theorem readWord_eq_ok_iff : readWord word s = .ok rest ↔ s = word ++ rest := by
  induction word generalizing s with
  | nil => simp [readWord]
  | cons w word ih =>
    cases s with
    | nil => simp [readWord]
    | cons b s =>
      rw [readWord]
      by_cases hb : b = w
      · rw [if_pos hb, ih, hb, List.cons_append, List.cons_inj_right]
      · rw [if_neg hb]
        simp [hb]

theorem mapRead_eq_ok_iff {β : Type} {f : α → β} {r : Except Fault (α × Bytes)} {b : β} :
    mapRead f r = .ok (b, rest) ↔ ∃ a, r = .ok (a, rest) ∧ f a = b := by
  constructor
  · intro h
    obtain ⟨⟨a, s⟩, hr, hb⟩ := map_eq_ok_iff.mp h
    cases hb
    exact ⟨a, hr, rfl⟩
  · rintro ⟨a, rfl, rfl⟩
    rfl

/-! ## Numbers as values -/

theorem readNode_of_isDigit (inner : Option (Reader Value)) (h : isDigit b = true) :
    readNode inner (b :: s) = mapRead Value.number (readNumber false (b :: s)) := by
  rw [readNode, skipBlanks_cons (isBlank_of_isDigit h)]
  dsimp only
  rw [if_neg (ne_of_isDigit h rfl), if_neg (ne_of_isDigit h rfl), if_neg (ne_of_isDigit h rfl),
    if_neg (ne_of_isDigit h rfl), if_pos h]

/-- The digits of a number start with one. -/
theorem SpellsMagnitude.exists_cons {negative : Bool} {n : Number}
    (h : SpellsMagnitude negative written n) :
    ∃ b s, written = b :: s ∧ isDigit b = true := by
  obtain @⟨whole, point, fraction, mark, exponent, _, hwhole, -, -, -⟩ := h
  obtain ⟨b, s, rfl⟩ := List.exists_cons_of_ne_nil hwhole.1.1
  exact ⟨b, _, rfl, hwhole.1.isDigit b List.mem_cons_self⟩

/-- A number is read as a value. -/
theorem readNode_of_spellsNumber (inner : Option (Reader Value)) {written : Bytes} {n : Number}
    (h : SpellsNumber written n) (hrest : Stops rest) :
    readNode inner (written ++ rest) = .ok (.number n, rest) := by
  cases h with
  | positive h =>
    obtain ⟨b, s, hcons, hb⟩ := h.exists_cons
    have hread := readNumber_of_spells h hrest
    rw [hcons, List.cons_append] at hread ⊢
    rw [readNode_of_isDigit inner hb, hread]
    rfl
  | negative h =>
    have hnode : ∀ t, readNode inner (0x2D :: t) = mapRead Value.number (readNumber true t) :=
      fun _ => rfl
    rw [List.cons_append, hnode, readNumber_of_spells h hrest]
    rfl

/-! ## The marks of lists and objects -/

/-- A text goes on with something that is neither a blank nor a closing bracket. -/
def Starts (s : Bytes) : Prop := ∃ b t, s = b :: t ∧ isBlank b = false ∧ b ≠ 0x5D

theorem Starts.append (h : Starts s) (t : Bytes) : Starts (s ++ t) := by
  obtain ⟨b, u, rfl, hblank, hbracket⟩ := h
  exact ⟨b, u ++ t, rfl, hblank, hbracket⟩

theorem Starts.skipBlanks_eq (h : Starts s) : skipBlanks s = s := by
  obtain ⟨b, t, rfl, hblank, -⟩ := h
  exact skipBlanks_cons hblank t

/-- The first item of a list. -/
theorem nextItem_first (hbefore : IsBlank before) (h : Starts s) :
    nextItem true (before ++ s) = .ok (true, s) := by
  rw [nextItem, skipBlanks_append hbefore, h.skipBlanks_eq]
  obtain ⟨b, t, rfl, -, hbracket⟩ := h
  dsimp only
  rw [if_neg hbracket, if_pos rfl]

/-- A further item of a list. -/
theorem nextItem_comma (hblanks : IsBlank blanks) (hbefore : IsBlank before) (h : Starts s) :
    nextItem false (blanks ++ 0x2C :: (before ++ s)) = .ok (true, s) := by
  rw [nextItem, skipBlanks_append hblanks, skipBlanks_cons rfl]
  dsimp only
  rw [if_neg (by decide), if_neg Bool.false_ne_true, if_pos rfl, skipBlanks_append hbefore,
    h.skipBlanks_eq]
  obtain ⟨b, t, rfl, -, hbracket⟩ := h
  dsimp only
  rw [if_neg hbracket]

/-- The end of a list. -/
theorem nextItem_close (hblanks : IsBlank blanks) (first : Bool) (rest : Bytes) :
    nextItem first (blanks ++ 0x5D :: rest) = .ok (false, 0x5D :: rest) := by
  rw [nextItem, skipBlanks_append hblanks, skipBlanks_cons rfl]
  rfl

/-- The first key of an object. -/
theorem nextKey_first (hbefore : IsBlank before) (s : Bytes) :
    nextKey true (before ++ 0x22 :: s) = .ok (true, s) := by
  rw [nextKey, skipBlanks_append hbefore, skipBlanks_cons rfl]
  rfl

/-- A further key of an object. -/
theorem nextKey_comma (hblanks : IsBlank blanks) (hbefore : IsBlank before) (s : Bytes) :
    nextKey false (blanks ++ 0x2C :: (before ++ 0x22 :: s)) = .ok (true, s) := by
  rw [nextKey, skipBlanks_append hblanks, skipBlanks_cons rfl]
  dsimp only
  rw [if_neg (by decide), if_neg Bool.false_ne_true, if_pos rfl, skipBlanks_append hbefore,
    skipBlanks_cons rfl]
  rfl

/-- The end of an object. -/
theorem nextKey_close (hblanks : IsBlank blanks) (first : Bool) (rest : Bytes) :
    nextKey first (blanks ++ 0x7D :: rest) = .ok (false, 0x7D :: rest) := by
  rw [nextKey, skipBlanks_append hblanks, skipBlanks_cons rfl]
  rfl

theorem readColon_eq_ok_iff :
    readColon s = .ok rest ↔ ∃ blanks, IsBlank blanks ∧ s = blanks ++ 0x3A :: rest := by
  constructor
  · intro h
    rw [readColon] at h
    split at h
    · cases h
    · next b t hskip =>
      split at h
      · next hb =>
        cases h
        obtain ⟨blanks, rfl, hblanks⟩ := exists_blanks_of_skipBlanks hskip
        exact ⟨blanks, hblanks, by rw [hb]⟩
      · cases h
  · rintro ⟨blanks, hblanks, rfl⟩
    rw [readColon, skipBlanks_append hblanks, skipBlanks_cons rfl]
    rfl

/-- Before an item of a list there is a comma, unless it is the first one. -/
theorem cases_of_nextItem {more : Bool} (h : nextItem first s = .ok (more, t)) :
    (more = false ∧ ∃ blanks u, IsBlank blanks ∧ t = 0x5D :: u ∧ s = blanks ++ t) ∨
    (more = true ∧ first = true ∧ ∃ before, IsBlank before ∧ s = before ++ t) ∨
    (more = true ∧ first = false ∧ ∃ blanks before, IsBlank blanks ∧ IsBlank before ∧
      s = blanks ++ 0x2C :: (before ++ t)) := by
  rw [nextItem] at h
  split at h
  · cases h
  next b u hskip =>
  obtain ⟨blanks, rfl, hblanks⟩ := exists_blanks_of_skipBlanks hskip
  split at h
  · next hb =>
    cases h
    exact .inl ⟨rfl, blanks, u, hblanks, by rw [hb], rfl⟩
  split at h
  · next hfirst =>
    cases h
    exact .inr (.inl ⟨rfl, hfirst, blanks, hblanks, rfl⟩)
  next hfirst =>
  split at h
  · next hb =>
    split at h
    · cases h
    next c w hskip' =>
    obtain ⟨before, rfl, hbefore⟩ := exists_blanks_of_skipBlanks hskip'
    split at h
    · cases h
    · cases h
      exact .inr (.inr ⟨rfl, Bool.eq_false_iff.mpr hfirst, blanks, before, hblanks, hbefore,
        by rw [hb]⟩)
  · cases h

/-- Before a key of an object there is a comma, unless it is the first one. -/
theorem cases_of_nextKey {more : Bool} (h : nextKey first s = .ok (more, t)) :
    (more = false ∧ ∃ blanks u, IsBlank blanks ∧ t = 0x7D :: u ∧ s = blanks ++ t) ∨
    (more = true ∧ first = true ∧ ∃ before, IsBlank before ∧ s = before ++ 0x22 :: t) ∨
    (more = true ∧ first = false ∧ ∃ blanks before, IsBlank blanks ∧ IsBlank before ∧
      s = blanks ++ 0x2C :: (before ++ 0x22 :: t)) := by
  rw [nextKey] at h
  split at h
  · cases h
  next b u hskip =>
  obtain ⟨blanks, rfl, hblanks⟩ := exists_blanks_of_skipBlanks hskip
  split at h
  · next hb =>
    cases h
    exact .inl ⟨rfl, blanks, u, hblanks, by rw [hb], rfl⟩
  split at h
  · next hfirst =>
    split at h
    · next hb =>
      cases h
      exact .inr (.inl ⟨rfl, hfirst, blanks, hblanks, by rw [hb]⟩)
    · cases h
  next hfirst =>
  split at h
  · next hb =>
    split at h
    · cases h
    next c w hskip' =>
    obtain ⟨before, rfl, hbefore⟩ := exists_blanks_of_skipBlanks hskip'
    split at h
    · next hc =>
      cases h
      exact .inr (.inr ⟨rfl, Bool.eq_false_iff.mpr hfirst, blanks, before, hblanks, hbefore,
        by rw [hb, hc]⟩)
    · split at h
      · cases h
      · cases h
  · cases h

/-! ## The steps of the readers -/

/-- A step of the reader of a list: its end, or an item and the rest of the list. -/
theorem readItemsFrom_eq_ok_iff {item : Reader α} {items : List α} :
    readItemsFrom item first (fuel + 1) s = .ok (items, rest) ↔
      (∃ t, nextItem first s = .ok (false, t) ∧ items = [] ∧ rest = t.drop 1) ∨
      ∃ t a u as, nextItem first s = .ok (true, t) ∧ item t = .ok (a, u) ∧
        readItemsFrom item false fuel u = .ok (as, rest) ∧ items = a :: as := by
  rw [readItemsFrom]
  constructor
  · intro h
    obtain ⟨⟨more, t⟩, hnext, h⟩ := bind_eq_ok_iff.mp h
    cases more with
    | false =>
      cases h
      exact .inl ⟨t, hnext, rfl, rfl⟩
    | true =>
      obtain ⟨⟨a, u⟩, hitem, h⟩ := bind_eq_ok_iff.mp h
      obtain ⟨⟨as, w⟩, hmore, h⟩ := bind_eq_ok_iff.mp h
      cases h
      exact .inr ⟨t, a, u, as, hnext, hitem, hmore, rfl⟩
  · rintro (⟨t, hnext, rfl, rfl⟩ | ⟨t, a, u, as, hnext, hitem, hmore, rfl⟩)
    · rw [hnext]
      rfl
    · refine bind_eq_ok_iff.mpr ⟨_, hnext, bind_eq_ok_iff.mpr ⟨_, hitem, ?_⟩⟩
      exact bind_eq_ok_iff.mpr ⟨_, hmore, rfl⟩

/-- A step of the reader of an object: its end, or a field and the rest of the object. -/
theorem readFieldsFrom_eq_ok_iff {value : Reader α} {fields : List (String × α)} :
    readFieldsFrom value first (fuel + 1) s = .ok (fields, rest) ↔
      (∃ t, nextKey first s = .ok (false, t) ∧ fields = [] ∧ rest = t.drop 1) ∨
      ∃ t key u w a x as, nextKey first s = .ok (true, t) ∧ readString t = .ok (key, u) ∧
        readColon u = .ok w ∧ value w = .ok (a, x) ∧
        readFieldsFrom value false fuel x = .ok (as, rest) ∧ fields = (key, a) :: as := by
  rw [readFieldsFrom]
  constructor
  · intro h
    obtain ⟨⟨more, t⟩, hnext, h⟩ := bind_eq_ok_iff.mp h
    cases more with
    | false =>
      cases h
      exact .inl ⟨t, hnext, rfl, rfl⟩
    | true =>
      obtain ⟨⟨key, u⟩, hkey, h⟩ := bind_eq_ok_iff.mp h
      obtain ⟨w, hcolon, h⟩ := bind_eq_ok_iff.mp h
      obtain ⟨⟨a, x⟩, hvalue, h⟩ := bind_eq_ok_iff.mp h
      obtain ⟨⟨as, y⟩, hmore, h⟩ := bind_eq_ok_iff.mp h
      cases h
      exact .inr ⟨t, key, u, w, a, x, as, hnext, hkey, hcolon, hvalue, hmore, rfl⟩
  · rintro (⟨t, hnext, rfl, rfl⟩ |
      ⟨t, key, u, w, a, x, as, hnext, hkey, hcolon, hvalue, hmore, rfl⟩)
    · rw [hnext]
      rfl
    · refine bind_eq_ok_iff.mpr ⟨_, hnext, bind_eq_ok_iff.mpr ⟨_, hkey, ?_⟩⟩
      refine bind_eq_ok_iff.mpr ⟨_, hcolon, bind_eq_ok_iff.mpr ⟨_, hvalue, ?_⟩⟩
      exact bind_eq_ok_iff.mpr ⟨_, hmore, rfl⟩

end MethodRoutes.Json
