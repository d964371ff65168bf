import Mathlib.Data.List.Forall2
import MethodRoutes.Json.Format
import MethodRoutes.Proofs.Json.Numeral
import MethodRoutes.Proofs.Json.Objects
import MethodRoutes.Proofs.Json.Spelling

/-!
# Reading back what was written

The writer knows no limits, but the reader refuses lists and objects that lie too deep in one
another. So what becomes of a rendered value depends on one number, its depth: up to the limit the
value is read back, and beyond it the reader stops at a bracket that lies too deep.

Both halves are proved at once, as one statement about a reader with a condition under which it
succeeds: a list or an object succeeds if all its parts do, and the first part that does not stops
it. The induction is over the value, for any limit and anything that may stand behind the value.

Lists and objects are treated for any reader of their parts, and the parts need not be read as the
values that were written: a reader may make something else of them.

## Main definitions

* `Json.Value.IsWhole` — values with whole numbers, and objects with ascending keys
* `Json.Value.depth` — how deep lists and objects lie in one another
* `Json.Reads` — a reader succeeds under a condition, and else runs into the limit
* `Json.Takes` — a reader takes the text of a value, under a condition

## Main results

* `Json.reads_readItems`, `Json.reads_readFields` — lists and objects, given their parts
* `Json.Value.IsWhole.readsBack` — a value, for any limit
* `Json.Value.parse_render`, `Json.Value.parse_render_of_lt_depth` — a whole text
-/

namespace MethodRoutes.Json

namespace Value

/-- All numbers are whole numbers of a machine word, and the keys of each object are in ascending
order, so that no key occurs twice. -/
inductive IsWhole : Value → Prop
  | null : IsWhole null
  | bool (value : Bool) : IsWhole (bool value)
  | integer {n : Int} (word : IsWord n) : IsWhole (number (.integer n))
  | string (text : String) : IsWhole (string text)
  | array {items : List Value} (whole : ∀ v ∈ items, IsWhole v) : IsWhole (array items)
  | object {fields : List (String × Value)} (ascending : fields.Pairwise fun f g => f.1 < g.1)
    (whole : ∀ f ∈ fields, IsWhole f.2) : IsWhole (object fields)

mutual

/-- How many lists and objects lie in one another. -/
def depth : Value → Nat
  | array items => itemsDepth items + 1
  | object fields => fieldsDepth fields + 1
  | _ => 0

/-- The depth of the deepest item. -/
def itemsDepth : List Value → Nat
  | [] => 0
  | v :: rest => max (depth v) (itemsDepth rest)

/-- The depth of the deepest field. -/
def fieldsDepth : List (String × Value) → Nat
  | [] => 0
  | (_, v) :: rest => max (depth v) (fieldsDepth rest)

end

end Value

/-! ## Readers with a limit -/

section Reads

variable {α β : Type} {r : Except Fault (α × Bytes)} {a : α} {s t rest rest' : Bytes}
  {fits fits' : Prop}

/-- A result is what was wanted if the value fits the limit, and the limit is reported if it does
not. -/
structure Reads (r : Except Fault (α × Bytes)) (fits : Prop) (a : α) (rest : Bytes) : Prop where
  /-- What fits is read, up to what stands behind it. -/
  read : fits → r = .ok (a, rest)
  /-- What does not fit is refused. -/
  refused : ¬ fits → ∃ s, r = .error (.upon .recursionLimit s)

theorem Reads.of_eq_ok (h : r = .ok (a, rest)) (hfits : fits) : Reads r fits a rest :=
  ⟨fun _ => h, fun hnot => absurd hfits hnot⟩

theorem Reads.congr (h : Reads r fits a rest) (hiff : fits ↔ fits') : Reads r fits' a rest :=
  ⟨fun hfits => h.read (hiff.mpr hfits), fun hnot => h.refused (hnot ∘ hiff.mp)⟩

theorem Reads.map (h : Reads r fits a rest) (f : α → β) :
    Reads (mapRead f r) fits (f a) rest := by
  constructor
  · intro hfits
    rw [h.read hfits]
    rfl
  · intro hnot
    obtain ⟨s, hs⟩ := h.refused hnot
    exact ⟨s, by rw [hs]; rfl⟩

/-- A computation that goes on with what was read fits if both parts do. -/
theorem Reads.bind {k : α × Bytes → Except Fault (β × Bytes)} {b : β}
    (h : Reads r fits a rest) (hk : Reads (k (a, rest)) fits' b rest') :
    Reads (r >>= k) (fits ∧ fits') b rest' := by
  by_cases hfits : fits
  · have hbind : (r >>= k) = k (a, rest) := by rw [h.read hfits]; rfl
    rw [hbind]
    exact hk.congr ⟨fun hfits' => ⟨hfits, hfits'⟩, And.right⟩
  · obtain ⟨s, hs⟩ := h.refused hfits
    refine ⟨fun hboth => absurd hboth.1 hfits, fun _ => ⟨s, ?_⟩⟩
    rw [hs]
    rfl

/-! ### Steps -/

variable {item : Reader α} {first : Bool} {fuel : Nat} {as : List α}

/-- The closing bracket of a list. -/
theorem readItemsFrom_close :
    readItemsFrom item first (fuel + 1) (0x5D :: rest) = .ok ([], rest) := rfl

/-- An item, and the items behind it. -/
theorem reads_readItemsFrom_cons (hnext : nextItem first s = .ok (true, t))
    (hitem : Reads (item t) fits a rest)
    (hmore : Reads (readItemsFrom item false fuel rest) fits' as rest') :
    Reads (readItemsFrom item first (fuel + 1) s) (fits ∧ fits') (a :: as) rest' := by
  have hstep : readItemsFrom item first (fuel + 1) s = item t >>= fun p =>
      mapRead (p.1 :: ·) (readItemsFrom item false fuel p.2) := by
    rw [readItemsFrom, hnext]
    rfl
  rw [hstep]
  exact hitem.bind (hmore.map _)

/-- The closing brace of an object. -/
theorem readFieldsFrom_close :
    readFieldsFrom item first (fuel + 1) (0x7D :: rest) = .ok ([], rest) := rfl

variable {fields : List (String × α)}

/-- A field, and the fields behind it. -/
theorem reads_readFieldsFrom_cons {key : String}
    (hnext : nextKey first s =
      .ok (true, Bytes.ofChars (key.toList.flatMap escapeChar) ++ 0x22 :: 0x3A :: t))
    (hvalue : Reads (item t) fits a rest)
    (hmore : Reads (readFieldsFrom item false fuel rest) fits' fields rest') :
    Reads (readFieldsFrom item first (fuel + 1) s) (fits ∧ fits') ((key, a) :: fields) rest' := by
  have hstep : readFieldsFrom item first (fuel + 1) s = item t >>= fun p =>
      mapRead ((key, p.1) :: ·) (readFieldsFrom item false fuel p.2) := by
    rw [readFieldsFrom, hnext]
    change (readString _ >>= _) = _
    rw [readString_escape]
    rfl
  rw [hstep]
  exact hvalue.bind (hmore.map _)

end Reads

/-! ## Rendered parts -/

open Value (itemsChars fieldsChars itemsDepth fieldsDepth)

section Rendered

variable {v : Value} {values items : List Value} {fields : List (String × Value)} {rest : Bytes}

theorem ofChars_renderString (text : String) :
    Bytes.ofChars (renderString text) =
      0x22 :: (Bytes.ofChars (text.toList.flatMap escapeChar) ++ [0x22]) := by
  rw [renderString, Bytes.ofChars_cons_of_lt (by decide), Bytes.ofChars_append]
  rfl

/-- The text of a field, as far as the colon. -/
theorem ofChars_field (key : String) (cs : List Char) :
    Bytes.ofChars (renderString key ++ ':' :: cs) =
      0x22 :: (Bytes.ofChars (key.toList.flatMap escapeChar) ++
        0x22 :: 0x3A :: Bytes.ofChars cs) := by
  rw [Bytes.ofChars_append, ofChars_renderString, Bytes.ofChars_cons_of_lt (by decide),
    List.cons_append, List.append_assoc]
  rfl

theorem ofChars_itemsChars_cons (v : Value) (items : List Value) :
    Bytes.ofChars (itemsChars (v :: items)) =
      0x2C :: (Bytes.ofChars v.chars ++ Bytes.ofChars (itemsChars items)) := by
  rw [itemsChars, Bytes.ofChars_cons_of_lt (by decide), Bytes.ofChars_append]
  rfl

theorem ofChars_fieldsChars_cons (key : String) (v : Value) (fields : List (String × Value)) :
    Bytes.ofChars (fieldsChars ((key, v) :: fields)) =
      0x2C :: 0x22 :: (Bytes.ofChars (key.toList.flatMap escapeChar) ++ 0x22 :: 0x3A ::
        (Bytes.ofChars v.chars ++ Bytes.ofChars (fieldsChars fields))) := by
  rw [fieldsChars, Bytes.ofChars_cons_of_lt (by decide), ofChars_field, Bytes.ofChars_append]
  rfl

/-- Behind an item of a list there is a comma or the closing bracket. -/
theorem ends_itemsChars (items : List Value) (rest : Bytes) :
    Ends (Bytes.ofChars (itemsChars items) ++ rest) := by
  cases items with
  | nil =>
    rintro b ⟨⟩
    exact .inr (.inl rfl)
  | cons v items =>
    rintro b ⟨⟩
    exact .inl rfl

/-- Behind a field of an object there is a comma or the closing brace. -/
theorem ends_fieldsChars (fields : List (String × Value)) (rest : Bytes) :
    Ends (Bytes.ofChars (fieldsChars fields) ++ rest) := by
  cases fields with
  | nil =>
    rintro b ⟨⟩
    exact .inr (.inr rfl)
  | cons f fields =>
    rintro b ⟨⟩
    exact .inl rfl

theorem length_lt_length_itemsChars (items : List Value) :
    items.length < (Bytes.ofChars (itemsChars items)).length := by
  induction items with
  | nil => decide
  | cons v items ih =>
    rw [ofChars_itemsChars_cons]
    simp only [List.length_cons, List.length_append]
    omega

theorem length_lt_length_fieldsChars (fields : List (String × Value)) :
    fields.length < (Bytes.ofChars (fieldsChars fields)).length := by
  induction fields with
  | nil => decide
  | cons f fields ih =>
    obtain ⟨key, v⟩ := f
    rw [ofChars_fieldsChars_cons]
    simp only [List.length_cons, List.length_append]
    omega

/-! ### How values start -/

theorem starts_integer (n : Int) : Starts (Bytes.ofChars (Value.number (.integer n)).chars) := by
  change Starts (Bytes.ofChars (Number.integer n).render)
  cases n with
  | ofNat m =>
    obtain ⟨b, s, hcons, hb, -⟩ := exists_numeral_eq_cons m
    rw [ofChars_render_ofNat]
    exact ⟨b, s, hcons, isBlank_of_isDigit hb, ne_of_isDigit hb rfl⟩
  | negSucc m =>
    rw [ofChars_render_negSucc]
    exact ⟨_, _, rfl, rfl, by decide⟩

theorem starts_string (text : String) : Starts (Bytes.ofChars (Value.string text).chars) :=
  ⟨_, _, ofChars_renderString text, rfl, by decide⟩

theorem exists_array_eq_cons (items : List Value) :
    ∃ s, Bytes.ofChars (Value.array items).chars = 0x5B :: s := by
  cases items <;> exact ⟨_, rfl⟩

theorem exists_object_eq_cons (fields : List (String × Value)) :
    ∃ s, Bytes.ofChars (Value.object fields).chars = 0x7B :: s := by
  cases fields <;> exact ⟨_, rfl⟩

/-! ### Lists and objects -/

/-- Under a condition, a reader takes the text of a value and gives `a` for it, wherever the text
may stand. -/
structure Takes {α : Type} (read : Reader α) (v : Value) (fits : Prop) (a : α) : Prop where
  /-- The text starts with neither a blank nor a closing bracket. -/
  starts : Starts (Bytes.ofChars v.chars)
  /-- The text is read under the condition. -/
  reads : ∀ rest, Ends rest → Reads (read (Bytes.ofChars v.chars ++ rest)) fits a rest

variable {α : Type} {item : Reader α} {fits : α → Prop} {as : List α}
  {entries : List (String × α)} {fitsIn : String × α → Prop}

/-- The items of a list behind the first one. -/
theorem reads_itemsChars (rest : Bytes)
    (h : List.Forall₂ (fun v a => Takes item v (fits a) a) values as) {fuel : Nat}
    (hfuel : values.length < fuel) :
    Reads (readItemsFrom item false fuel (Bytes.ofChars (itemsChars values) ++ rest))
      (∀ a ∈ as, fits a) as rest := by
  -- Each item takes one unit of fuel, and leaves enough for those behind it.
  induction h generalizing fuel with
  | nil =>
    obtain ⟨fuel, rfl⟩ := Nat.exists_eq_add_one_of_ne_zero (Nat.ne_zero_of_lt hfuel)
    exact .of_eq_ok readItemsFrom_close nofun
  | @cons v a values as hv _ ih =>
    obtain ⟨fuel, rfl⟩ := Nat.exists_eq_add_one_of_ne_zero (Nat.ne_zero_of_lt hfuel)
    have hmore := ih (Nat.lt_of_succ_lt_succ hfuel)
    rw [ofChars_itemsChars_cons, List.cons_append, List.append_assoc]
    exact (reads_readItemsFrom_cons (nextItem_comma isBlank_nil isBlank_nil (hv.starts.append _))
      (hv.reads _ (ends_itemsChars values rest)) hmore).congr List.forall_mem_cons.symm

/-- A list from behind its opening bracket. -/
theorem reads_readItems (rest : Bytes)
    (h : List.Forall₂ (fun v a => Takes item v (fits a) a) values as) {s : Bytes}
    (hs : Bytes.ofChars (Value.array values).chars = 0x5B :: s) :
    Reads (readItems item (s ++ rest)) (∀ a ∈ as, fits a) as rest := by
  cases h with
  | nil =>
    cases hs
    exact .of_eq_ok readItemsFrom_close nofun
  | @cons v a values as hv hvs =>
    rw [Value.chars, Bytes.ofChars_cons_of_lt (by decide), Bytes.ofChars_append] at hs
    cases hs
    rw [List.append_assoc]
    -- The fuel is the length of the text, and every item has a comma or a bracket behind it.
    have hfuel : values.length <
        (Bytes.ofChars v.chars ++ (Bytes.ofChars (itemsChars values) ++ rest)).length := by
      have hlength := length_lt_length_itemsChars values
      simp only [List.length_append]
      omega
    have hmore := reads_itemsChars rest hvs hfuel
    exact (reads_readItemsFrom_cons (nextItem_first isBlank_nil (hv.starts.append _))
      (hv.reads _ (ends_itemsChars values rest)) hmore).congr List.forall_mem_cons.symm

/-- The fields of an object behind the first one. -/
theorem reads_fieldsChars (rest : Bytes)
    (h : List.Forall₂ (fun f e => f.1 = e.1 ∧ Takes item f.2 (fitsIn e) e.2) fields entries)
    {fuel : Nat} (hfuel : fields.length < fuel) :
    Reads (readFieldsFrom item false fuel (Bytes.ofChars (fieldsChars fields) ++ rest))
      (∀ e ∈ entries, fitsIn e) entries rest := by
  induction h generalizing fuel with
  | nil =>
    obtain ⟨fuel, rfl⟩ := Nat.exists_eq_add_one_of_ne_zero (Nat.ne_zero_of_lt hfuel)
    exact .of_eq_ok readFieldsFrom_close nofun
  | @cons f e fields entries hf _ ih =>
    obtain ⟨fuel, rfl⟩ := Nat.exists_eq_add_one_of_ne_zero (Nat.ne_zero_of_lt hfuel)
    obtain ⟨key, v⟩ := f
    obtain ⟨_, a⟩ := e
    obtain ⟨rfl, hv⟩ := hf
    have hmore := ih (Nat.lt_of_succ_lt_succ hfuel)
    rw [ofChars_fieldsChars_cons]
    simp only [List.cons_append, List.append_assoc]
    exact (reads_readFieldsFrom_cons (nextKey_comma isBlank_nil isBlank_nil _)
      (hv.reads _ (ends_fieldsChars fields rest)) hmore).congr List.forall_mem_cons.symm

/-- An object from behind its opening brace. -/
theorem reads_readFields (rest : Bytes)
    (h : List.Forall₂ (fun f e => f.1 = e.1 ∧ Takes item f.2 (fitsIn e) e.2) fields entries)
    {s : Bytes} (hs : Bytes.ofChars (Value.object fields).chars = 0x7B :: s) :
    Reads (readFields item (s ++ rest)) (∀ e ∈ entries, fitsIn e) entries rest := by
  cases h with
  | nil =>
    cases hs
    exact .of_eq_ok readFieldsFrom_close nofun
  | @cons f e fields entries hf hfs =>
    obtain ⟨key, v⟩ := f
    obtain ⟨_, a⟩ := e
    obtain ⟨rfl, hv⟩ := hf
    rw [Value.chars, Bytes.ofChars_cons_of_lt (by decide), ofChars_field,
      Bytes.ofChars_append] at hs
    cases hs
    simp only [List.cons_append, List.append_assoc]
    have hfuel : fields.length < (0x22 :: (Bytes.ofChars (key.toList.flatMap escapeChar) ++
        0x22 :: 0x3A ::
          (Bytes.ofChars v.chars ++ (Bytes.ofChars (fieldsChars fields) ++ rest)))).length := by
      have hlength := length_lt_length_fieldsChars fields
      simp only [List.length_cons, List.length_append]
      omega
    have hmore := reads_fieldsChars rest hfs hfuel
    exact (reads_readFieldsFrom_cons (nextKey_first isBlank_nil _)
      (hv.reads _ (ends_fieldsChars fields rest)) hmore).congr List.forall_mem_cons.symm

/-! ## Rendered values -/

/-- A value is read back from its text, with any limit, wherever the text may stand. -/
structure Value.ReadsBack (v : Value) : Prop where
  /-- The text starts with neither a blank nor a closing bracket. -/
  starts : Starts (Bytes.ofChars v.chars)
  /-- The text is read if the value is not too deep. -/
  reads : ∀ d rest, Ends rest →
    Reads (readValue d (Bytes.ofChars v.chars ++ rest)) (v.depth ≤ d) v rest

theorem Value.ReadsBack.takes (h : v.ReadsBack) (d : Nat) :
    Takes (readValue d) v (v.depth ≤ d) v := ⟨h.starts, h.reads d⟩

theorem itemsDepth_le_iff {d : Nat} : itemsDepth items ≤ d ↔ ∀ v ∈ items, v.depth ≤ d := by
  induction items with
  | nil => exact ⟨fun _ => nofun, fun _ => Nat.zero_le d⟩
  | cons v items ih => rw [itemsDepth, Nat.max_le, ih, List.forall_mem_cons]

theorem fieldsDepth_le_iff {d : Nat} : fieldsDepth fields ≤ d ↔ ∀ f ∈ fields, f.2.depth ≤ d := by
  induction fields with
  | nil => exact ⟨fun _ => nofun, fun _ => Nat.zero_le d⟩
  | cons f fields ih => rw [fieldsDepth, Nat.max_le, ih, List.forall_mem_cons]

/-- What is neither a list nor an object is read whatever the limit is. -/
theorem readsBack_of_readNode (hdepth : v.depth = 0) (hstarts : Starts (Bytes.ofChars v.chars))
    (hread : ∀ inner rest, Ends rest →
      readNode inner (Bytes.ofChars v.chars ++ rest) = .ok (v, rest)) : v.ReadsBack := by
  refine ⟨hstarts, fun d rest hrest => .of_eq_ok ?_ (by omega)⟩
  cases d with
  | zero => exact hread none rest hrest
  | succ d => exact hread _ rest hrest

theorem readsBack_integer {n : Int} (word : IsWord n) : (Value.number (.integer n)).ReadsBack :=
  readsBack_of_readNode rfl (starts_integer n) fun inner _ hrest =>
    readNode_of_spellsNumber inner (spells_render word) hrest.stops

theorem readsBack_string (text : String) : (Value.string text).ReadsBack := by
  refine readsBack_of_readNode rfl (starts_string text) fun inner rest _ => ?_
  have hnode : ∀ s, readNode inner (0x22 :: s) = mapRead Value.string (readString s) :=
    fun _ => rfl
  rw [Value.chars, ofChars_renderString, List.cons_append, List.append_assoc, hnode,
    List.singleton_append, readString_escape]
  rfl

theorem readsBack_array (hback : ∀ v ∈ items, v.ReadsBack) : (Value.array items).ReadsBack := by
  obtain ⟨s, hs⟩ := exists_array_eq_cons items
  refine ⟨⟨_, _, hs, rfl, by decide⟩, fun d rest _ => ?_⟩
  rw [hs]
  cases d with
  | zero =>
    -- Nothing may be opened any more, so the bracket is refused.
    exact ⟨fun hfits => absurd hfits (Nat.not_succ_le_zero _), fun _ => ⟨_, rfl⟩⟩
  | succ d =>
    have hitems := reads_readItems rest
      (List.forall₂_same.mpr fun v hv => (hback v hv).takes d) hs
    exact (hitems.map Value.array).congr (itemsDepth_le_iff.symm.trans Nat.succ_le_succ_iff.symm)

theorem readsBack_object (ascending : fields.Pairwise fun f g => f.1 < g.1)
    (hback : ∀ f ∈ fields, f.2.ReadsBack) : (Value.object fields).ReadsBack := by
  obtain ⟨s, hs⟩ := exists_object_eq_cons fields
  refine ⟨⟨_, _, hs, rfl, by decide⟩, fun d rest _ => ?_⟩
  rw [hs]
  cases d with
  | zero => exact ⟨fun hfits => absurd hfits (Nat.not_succ_le_zero _), fun _ => ⟨_, rfl⟩⟩
  | succ d =>
    -- The fields are put in order, which they are in already.
    have hread := (reads_readFields rest
      (List.forall₂_same.mpr fun f hf => ⟨rfl, (hback f hf).takes d⟩) hs).map Value.ofFields
    rw [Value.ofFields_eq_object_iff.mpr (merges_self ascending)] at hread
    exact hread.congr (fieldsDepth_le_iff.symm.trans Nat.succ_le_succ_iff.symm)

/-- Values with whole numbers are read back from their texts. -/
theorem Value.IsWhole.readsBack (h : v.IsWhole) : v.ReadsBack := by
  induction h with
  | null => exact readsBack_of_readNode rfl ⟨_, _, rfl, rfl, by decide⟩ fun _ _ _ => rfl
  | bool value =>
    cases value
    all_goals exact readsBack_of_readNode rfl ⟨_, _, rfl, rfl, by decide⟩ fun _ _ _ => rfl
  | integer word => exact readsBack_integer word
  | string text => exact readsBack_string text
  | array _ hback => exact readsBack_array hback
  | object ascending _ hback => exact readsBack_object ascending hback

end Rendered

namespace Value

variable {v : Value}

/-- A value that is not too deep is what its text denotes. -/
theorem parse_render (h : v.IsWhole) (hdepth : v.depth ≤ nestingLimit) :
    parse (Bytes.ofText v.render) = .ok v := by
  have hread := (h.readsBack.reads nestingLimit [] ends_nil).read hdepth
  rw [List.append_nil] at hread
  rw [render, Bytes.ofText_ofList, parse, Format.decode, Format.any]
  dsimp only
  rw [hread]
  rfl

/-- A text in which lists and objects lie too deep denotes nothing. -/
theorem parse_render_of_lt_depth (h : v.IsWhole) (hdepth : nestingLimit < v.depth) :
    ∃ position, parse (Bytes.ofText v.render) = .error ⟨.malformed .recursionLimit, position⟩ := by
  obtain ⟨s, hread⟩ := (h.readsBack.reads nestingLimit [] ends_nil).refused (by omega)
  rw [List.append_nil] at hread
  rw [render, Bytes.ofText_ofList, parse, Format.decode, Format.any]
  dsimp only
  rw [hread]
  exact ⟨_, rfl⟩

end Value

end MethodRoutes.Json
