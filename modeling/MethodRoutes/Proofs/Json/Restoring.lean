import MethodRoutes.Json.Record
import MethodRoutes.Proofs.Json.RoundTrip

/-!
# Formats that give back what was written

What is written in one place is read in another one, by a format that knows the type. A format
restores something from a value if it reads it from the text of the value, wherever the text may
stand. So each format is treated once, given that the formats of its parts restore their parts, and
the texts of the parts are read where they stand inside of the whole.

A record takes the fields of an object one after another into a draft. What a row of fields makes of
a draft is a relation of its own, so that a record restores its value if its fields, in the order in
which they were written, lead to a draft that describes it. Fields that were left out take no step,
and the draft is finished without them.

## Main definitions

* `Json.Format.Restores` — a format reads something from the text of a value
* `Json.Record.Collects` — what the fields of an object make of a draft

## Main results

* `Json.Format.Restores.decode` — a whole text
* `Json.Format.restores_text`, `Json.Format.restores_natural`, `Json.Format.restores_list`,
  `Json.Format.restores_table`, `Json.Format.restores_name`, … — one for each format
* `Json.Record.Collects.readObject` — the fields of a record, by induction
* `Json.Record.restores` — records
-/

namespace MethodRoutes.Json

open Value (fieldsChars)

variable {α β : Type}

namespace Format

/-- The format reads `a` from the text of `v`, wherever the text may stand. -/
def Restores (format : Format α) (v : Value) (a : α) : Prop := Takes format.read v True a

variable {format : Format α} {v : Value} {a : α} {s rest : Bytes}

theorem Restores.read (h : format.Restores v a) (hrest : Ends rest) :
    format.read (Bytes.ofChars v.chars ++ rest) = .ok (a, rest) :=
  (h.reads rest hrest).read trivial

theorem restores_of_read (hstarts : Starts (Bytes.ofChars v.chars))
    (hread : ∀ rest, Ends rest → format.read (Bytes.ofChars v.chars ++ rest) = .ok (a, rest)) :
    format.Restores v a :=
  ⟨hstarts, fun rest hrest => .of_eq_ok (hread rest hrest) trivial⟩

/-- A whole text is the text of a value with nothing behind it. -/
theorem Restores.decode (h : format.Restores v a) :
    format.decode (Bytes.ofText v.render) = .ok a := by
  have hread := h.read ends_nil
  rw [List.append_nil] at hread
  rw [Value.render, Bytes.ofText_ofList, Format.decode, hread]
  rfl

/-! ## Basic formats -/

theorem read_textNamed (expected text : String) (rest : Bytes) :
    (textNamed expected).read (Bytes.ofChars (renderString text) ++ rest) = .ok (text, rest) := by
  have hquote : ∀ s, (textNamed expected).read (0x22 :: s) = readString s := fun _ => rfl
  rw [ofChars_renderString, List.cons_append, List.append_assoc, hquote, List.singleton_append,
    readString_escape]

theorem restores_text (text : String) : Format.text.Restores (.string text) text :=
  restores_of_read (starts_string text) fun rest _ => read_textNamed "a string" text rest

theorem restores_bool (b : Bool) : Format.bool.Restores (.bool b) b := by
  cases b
  all_goals exact restores_of_read ⟨_, _, rfl, rfl, by decide⟩ fun _ _ => rfl

/-- A number without a sign is read and then looked at. -/
theorem read_number_of_spells {expected : String} {accept : Number → Except Mismatch α}
    {written : Bytes} {n : Number} (h : SpellsMagnitude false written n) (hrest : Stops rest)
    (haccept : accept n = .ok a) :
    (number expected accept).read (written ++ rest) = .ok (a, rest) := by
  obtain ⟨b, s, hcons, hb⟩ := h.exists_cons
  have hread := readNumber_of_spells h hrest
  rw [hcons, List.cons_append] at hread ⊢
  rw [number]
  dsimp only
  rw [skipBlanks_cons (isBlank_of_isDigit hb)]
  dsimp only
  rw [if_neg (ne_of_isDigit hb rfl), if_pos hb, hread]
  dsimp only
  rw [haccept]

/-- A natural number is restored if it is below the bound of its format. -/
theorem restores_natural {bits n : Nat} (hbits : n < Nat.pow 2 bits) (hword : n < wordBound) :
    (natural bits).Restores (.nat n) n := by
  refine restores_of_read (starts_integer n) fun rest hrest => ?_
  have hspells : SpellsMagnitude false (numeral n) (.integer n) :=
    spells_numeral (if_pos hword)
  have hbound : (0 : Int) ≤ n ∧ (n : Int) ≤ Int.ofNat (Nat.pow 2 bits - 1) :=
    ⟨Int.natCast_nonneg n, Int.ofNat_le.mpr (Nat.le_sub_one_of_lt hbits)⟩
  have hread : (integer ("u" ++ toString bits) 0 (Int.ofNat (Nat.pow 2 bits - 1))).read
      (numeral n ++ rest) = .ok ((n : Int), rest) :=
    read_number_of_spells hspells hrest.stops (if_pos hbound)
  have hchars : Bytes.ofChars (Value.nat n).chars = numeral n := ofChars_render_ofNat n
  rw [hchars, natural, Format.map]
  dsimp only
  rw [hread]
  rfl

/-! ## Lists and tables -/

/-- A list is restored if its items are. -/
theorem restores_list {write : α → Value} {as : List α}
    (h : ∀ a ∈ as, format.Restores (write a) a) :
    (list format).Restores (.array (as.map write)) as := by
  obtain ⟨s, hs⟩ := exists_array_eq_cons (as.map write)
  refine restores_of_read ⟨_, _, hs, rfl, by decide⟩ fun rest _ => ?_
  have hitems : List.Forall₂ (fun v a => Takes format.read v True a) (as.map write) as :=
    List.forall₂_map_left_iff.mpr (List.forall₂_same.mpr h)
  have hbracket : ∀ t, (list format).read (0x5B :: t) = readItems format.read t := fun _ => rfl
  rw [hs, List.cons_append, hbracket]
  exact (reads_readItems rest hitems hs).read fun _ _ => trivial

/-- A table is restored, with its entries in their order, if its values are. -/
theorem restores_table {write : α → Value} {t : Table String α}
    (h : ∀ e ∈ t.entries, format.Restores (write e.2) e.2) :
    (table format).Restores (.object (t.entries.map fun e => (e.1, write e.2))) t := by
  obtain ⟨s, hs⟩ := exists_object_eq_cons (t.entries.map fun e => (e.1, write e.2))
  refine restores_of_read ⟨_, _, hs, rfl, by decide⟩ fun rest _ => ?_
  have hentries : List.Forall₂ (fun f e => f.1 = e.1 ∧ Takes format.read f.2 True e.2)
      (t.entries.map fun e => (e.1, write e.2)) t.entries :=
    List.forall₂_map_left_iff.mpr (List.forall₂_same.mpr fun e he => ⟨rfl, h e he⟩)
  have hbrace : ∀ t, (table format).read (0x7B :: t) =
      mapRead Table.ofList (readFields format.read t) := fun _ => rfl
  rw [hs, List.cons_append, hbrace, (reads_readFields rest hentries hs).read fun _ _ => trivial]
  change Except.ok (Table.ofList t.entries, rest) = _
  rw [t.ofList_entries]

/-! ## Options and choices -/

/-- What is written as a text is never taken for `null`. -/
theorem restores_some {text : String} (h : format.Restores (.string text) a) :
    (option format).Restores (.string text) (some a) := by
  refine restores_of_read h.starts fun rest hrest => ?_
  have hquote : ∀ t, (option format).read (0x22 :: t) = mapRead some (format.read (0x22 :: t)) :=
    fun _ => rfl
  have hread := h.read hrest
  rw [Value.chars, ofChars_renderString, List.cons_append] at hread ⊢
  rw [hquote, hread]
  rfl

variable {choices : List (String × Choice α)} {name : String}

theorem readChoiceName_of_findChoice {c : Choice α} (hfind : findChoice choices name = .ok c)
    (rest : Bytes) :
    readChoiceName choices (Bytes.ofChars (renderString name) ++ rest) = .ok (c, rest) := by
  rw [readChoiceName]
  refine bind_eq_ok_iff.mpr ⟨_, read_textNamed _ name rest, ?_⟩
  dsimp only
  rw [hfind]
  rfl

/-- A name that stands for a value of its own. -/
theorem restores_name (hfind : findChoice choices name = .ok (.plain a)) :
    (choice choices).Restores (.string name) a := by
  refine restores_of_read (starts_string name) fun rest _ => ?_
  have hname := readChoiceName_of_findChoice hfind rest
  rw [Value.chars]
  rw [ofChars_renderString, List.cons_append] at hname ⊢
  rw [choice]
  dsimp only
  rw [skipBlanks_cons rfl]
  dsimp only
  rw [if_neg (by decide), if_pos rfl]
  exact bind_eq_ok_iff.mpr ⟨_, hname, rfl⟩

/-- A name with a text as its content. -/
theorem restores_content {make : String → α}
    (hfind : findChoice choices name = .ok (.withText make)) (text : String) :
    (choice choices).Restores (.object [(name, .string text)]) (make text) := by
  have hchars : Bytes.ofChars (Value.object [(name, .string text)]).chars =
      0x7B :: (Bytes.ofChars (renderString name) ++
        0x3A :: (Bytes.ofChars (renderString text) ++ [0x7D])) := by
    rw [Value.chars, Value.chars, Bytes.ofChars_cons_of_lt (by decide), Bytes.ofChars_append,
      Bytes.ofChars_cons_of_lt (by decide), Bytes.ofChars_append]
    rfl
  refine restores_of_read ⟨_, _, hchars, rfl, by decide⟩ fun rest _ => ?_
  have hcolon : ∀ t, readColon (0x3A :: t) = .ok t := fun _ => rfl
  have hcontent : (Choice.withText make).read
      (Bytes.ofChars (renderString text) ++ 0x7D :: rest) = .ok (make text, 0x7D :: rest) := by
    rw [Choice.read, Format.text, read_textNamed]
    rfl
  rw [hchars]
  simp only [List.cons_append, List.append_assoc, List.nil_append]
  rw [choice]
  dsimp only
  rw [skipBlanks_cons rfl]
  dsimp only
  rw [if_pos rfl]
  -- The name, the colon, the content, and the closing brace.
  refine bind_eq_ok_iff.mpr ⟨_, readChoiceName_of_findChoice hfind _, ?_⟩
  refine bind_eq_ok_iff.mpr ⟨_, hcolon _, ?_⟩
  exact bind_eq_ok_iff.mpr ⟨_, hcontent, rfl⟩

end Format

/-! ## Records -/

/-- A part is put into the draft as its format restores it. -/
theorem Field.takes_of {δ β : Type} {name : String} {isOptional : Bool} {format : Format β}
    {get : δ → Option β} {set : δ → β → δ} {v : Value} {b : β} (h : format.Restores v b)
    (draft : δ) :
    Takes ((Field.of name isOptional format get set).read draft) v True (set draft b) :=
  ⟨h.starts, fun rest hrest => (h.reads rest hrest).map (set draft)⟩

namespace Record

variable {δ : Type} {record : Record δ α} {draft draft' draft'' : δ} {field : Field δ}
  {key : String} {v : Value} {fields fields' : List (String × Value)} {a : α} {rest s t u : Bytes}
  {fuel : Nat} {first : Bool}

/-- Fields, taken one after another, make a draft of a draft: each of them is a field of the record
whose part has not been given yet, and its value is taken for that part. -/
inductive Collects (record : Record δ α) : δ → List (String × Value) → δ → Prop
  | nil {draft : δ} : Collects record draft [] draft
  | cons {draft draft' draft'' : δ} {field : Field δ} {key : String} {v : Value}
    {fields : List (String × Value)} (find : record.find? key = some field)
    (fresh : field.given draft = false) (takes : Takes (field.read draft) v True draft')
    (rest : Collects record draft' fields draft'') :
    Collects record draft ((key, v) :: fields) draft''

theorem Collects.append (h : record.Collects draft fields draft')
    (h' : record.Collects draft' fields' draft'') :
    record.Collects draft (fields ++ fields') draft'' := by
  induction h with
  | nil => exact h'
  | cons find fresh takes _ ih => exact .cons find fresh takes (ih h')

/-- A step of the reader at a field of the record. -/
theorem readObject_field (hfind : record.find? key = some field)
    (hfresh : field.given draft = false)
    (hnext : nextKey first s =
      .ok (true, Bytes.ofChars (key.toList.flatMap escapeChar) ++ 0x22 :: 0x3A :: t))
    (hread : field.read draft t = .ok (draft', u)) :
    record.readObject draft first (fuel + 1) s = record.readObject draft' false fuel u := by
  have hcolon : readColon (0x3A :: t) = .ok t := rfl
  rw [readObject, hnext]
  change (readString _ >>= _) = _
  rw [readString_escape]
  simp only [bind, Except.bind, hfind, hfresh, hcolon, hread, Bool.false_eq_true, if_false]

/-- The fields behind the first one are read up to the closing brace. -/
theorem Collects.readObject (h : record.Collects draft fields draft') (rest : Bytes)
    (hfuel : fields.length < fuel) :
    record.readObject draft false fuel (Bytes.ofChars (fieldsChars fields) ++ rest) =
      .ok (draft', 0x7D :: rest) := by
  -- The value of each field ends at the comma before the next one or at the closing brace.
  induction h generalizing fuel with
  | nil =>
    obtain ⟨fuel, rfl⟩ := Nat.exists_eq_add_one_of_ne_zero (Nat.ne_zero_of_lt hfuel)
    rfl
  | @cons draft draft' draft'' field key v fields find fresh takes _ ih =>
    obtain ⟨fuel, rfl⟩ := Nat.exists_eq_add_one_of_ne_zero (Nat.ne_zero_of_lt hfuel)
    rw [ofChars_fieldsChars_cons]
    simp only [List.cons_append, List.append_assoc]
    have hread := (takes.reads _ (ends_fieldsChars fields rest)).read trivial
    exact (readObject_field find fresh (nextKey_comma isBlank_nil isBlank_nil _) hread).trans
      (ih (Nat.lt_of_succ_lt_succ hfuel))

/-- The fields from behind the opening brace. -/
theorem Collects.readObject_first (h : record.Collects draft fields draft') (rest : Bytes)
    (hs : Bytes.ofChars (Value.object fields).chars = 0x7B :: s) :
    record.readObject draft true ((s ++ rest).length + 1) (s ++ rest) =
      .ok (draft', 0x7D :: rest) := by
  cases h with
  | nil =>
    cases hs
    rfl
  | @cons draft draft' draft'' field key v fields find fresh takes hrest =>
    rw [Value.chars, Bytes.ofChars_cons_of_lt (by decide), ofChars_field,
      Bytes.ofChars_append] at hs
    cases hs
    simp only [List.cons_append, List.append_assoc]
    have hread := (takes.reads _ (ends_fieldsChars fields rest)).read trivial
    refine (readObject_field find fresh (nextKey_first isBlank_nil _) hread).trans ?_
    -- The fuel is the length of the text, which has a comma or a brace behind every field.
    apply hrest.readObject
    have hlength := length_lt_length_fieldsChars fields
    simp only [List.length_cons, List.length_append]
    omega

/-- A record is read from fields that lead to a draft of it. -/
theorem restores (h : record.Collects record.start fields draft)
    (hfinish : record.finish draft = .ok a) : record.format.Restores (.object fields) a := by
  obtain ⟨s, hs⟩ := exists_object_eq_cons fields
  refine Format.restores_of_read ⟨_, _, hs, rfl, by decide⟩ fun rest _ => ?_
  have hobject := h.readObject_first rest hs
  have hbrace : ∀ t, record.format.read (0x7B :: t) = settling leaveObject
      (record.readObject record.start true (t.length + 1) t >>= fun p =>
        record.finishAt p.1 p.2 >>= fun a => .ok (a, p.2.drop 1)) := fun _ => rfl
  have hfinishAt : record.finishAt draft (0x7D :: rest) = .ok a := by
    rw [finishAt, hfinish]
  rw [hs, List.cons_append, hbrace, hobject]
  change settling leaveObject (record.finishAt draft (0x7D :: rest) >>= _) = _
  rw [hfinishAt]
  rfl

end Record

end MethodRoutes.Json
