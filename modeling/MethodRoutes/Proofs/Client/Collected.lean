import Mathlib.Data.List.Induction
import Mathlib.Logic.Relation
import MethodRoutes.Proofs.Client.ErrorOnStatus
import MethodRoutes.Proofs.Client.Fields
import MethodRoutes.Proofs.Text.Utf8

/-!
# The headers of a response

A response arrives with a sequence of fields, in which a name may come back in another case and with
another value, and a value need not be a text. The headers that they amount to have one value for each
name. This file says which one: the texts among the values of the name, in the order in which they
arrived, joined by commas. Whatever stands between the fields of one name does not matter to it.

The fields are followed in order of arrival. A field that has a text puts it behind the texts that
have been joined under its name, and any other field changes nothing.

## Main definitions

* `IsTextValue` — a value of visible ASCII, spaces and tabs
* `textValues`, `joined` — the values of a name that are texts, and what they are joined to
* `SwapsNames` — two neighbours with different names change places

## Main results

* `map_ofText_get?_collectFields` — what is found under a name
* `collectFields_append_cons` — a value that is no text changes nothing
* `SwapsNames.textValues_eq` — neighbours with different names may change places
* `Client.response?_send` — the response that a client gives out
* `collectFields_joins_texts` — the headers of a response, for all sequences of fields
-/

namespace MethodRoutes

/-- Every byte of the value is visible ASCII, a space or a tab. -/
def IsTextValue (value : Bytes) : Prop := ∀ b ∈ value, b = 0x09 ∨ (0x20 ≤ b ∧ b ≤ 0x7E)

instance (value : Bytes) : Decidable (IsTextValue value) :=
  List.decidableBAll _ value

/-- The values that a name has, in whatever case it is written, in order of arrival and without those
that are no texts. -/
def textValues (fields : List (String × Bytes)) (name : String) : List Bytes :=
  (fields.filter fun f => lowercase f.1 = name ∧ IsTextValue f.2).map Prod.snd

/-- Two neighbours whose names differ in more than case change places. -/
inductive SwapsNames : List (String × Bytes) → List (String × Bytes) → Prop
  /-- The two fields may stand anywhere. -/
  | swap (before after : List (String × Bytes)) (f g : String × Bytes)
    (names : lowercase f.1 ≠ lowercase g.1) :
    SwapsNames (before ++ f :: g :: after) (before ++ g :: f :: after)

/-- Values with a comma and a space between them, if there are any. -/
def joined (values : List Bytes) : Option Bytes :=
  if values = [] then none else some ((Bytes.ofText ", ").intercalate values)

variable {fields fields' before after : List (String × Bytes)} {f : String × Bytes}
  {value : Bytes} {values : List Bytes} {name text : String}

/-! ## Values that are texts -/

theorem isTextValue_iff : IsTextValue value ↔ value.all isTextByte = true := by
  have hbyte : ∀ b : UInt8, isTextByte b = true ↔ b = 0x09 ∨ (0x20 ≤ b ∧ b ≤ 0x7E) := by
    intro b
    have hlt : b < 0x7F ↔ b ≤ 0x7E := by
      rw [UInt8.lt_iff_toNat_lt, UInt8.le_iff_toNat_le]
      exact Nat.lt_succ_iff
    simp [isTextByte, hlt]
  simp only [IsTextValue, List.all_eq_true, hbyte]

/-- A text is read from a value of visible ASCII, spaces and tabs, and has the bytes of the value. -/
theorem fieldText?_eq_some_iff :
    fieldText? value = some text ↔ IsTextValue value ∧ value = Bytes.ofText text := by
  rw [fieldText?, ← Bytes.text?_eq_some_iff, isTextValue_iff, Option.ite_none_right_eq_some]

theorem IsTextValue.exists_fieldText? (h : IsTextValue value) :
    ∃ text, fieldText? value = some text ∧ Bytes.ofText text = value := by
  -- All of the bytes lie in the ASCII range, so they are characters.
  have hascii : ∀ b ∈ value, b < 0x80 := by
    intro b hb
    rcases h b hb with rfl | ⟨-, hle⟩
    · decide
    · exact UInt8.lt_of_le_of_lt hle (by decide)
  obtain ⟨text, rfl⟩ := Bytes.isText_of_forall_lt hascii
  exact ⟨text, fieldText?_eq_some_iff.mpr ⟨h, rfl⟩, rfl⟩

theorem fieldText?_eq_none (h : ¬ IsTextValue value) : fieldText? value = none := by
  rw [Option.eq_none_iff_forall_ne_some]
  intro text htext
  exact h (fieldText?_eq_some_iff.mp htext).1

/-! ## One more field -/

/-- A value that is no text changes nothing. -/
theorem collectFields_append_cons (h : ¬ IsTextValue f.2) :
    collectFields (before ++ f :: after) = collectFields (before ++ after) := by
  simp only [collectFields, List.foldl_append, List.foldl_cons, fieldText?_eq_none h]

/-- A text is put behind those that are there under its name. -/
theorem collectFields_concat (h : fieldText? f.2 = some text) :
    collectFields (fields ++ [f]) =
      (collectFields fields).insert (lowercase f.1)
        (((collectFields fields).get? (lowercase f.1)).elim text (· ++ ", " ++ text)) := by
  rw [collectFields, List.foldl_append, ← collectFields]
  simp only [List.foldl_cons, List.foldl_nil, h]
  cases (collectFields fields).get? (lowercase f.1) with
  | none => rfl
  | some earlier => rfl

@[simp] theorem textValues_nil : textValues [] name = [] := rfl

theorem textValues_append : textValues (before ++ after) name =
    textValues before name ++ textValues after name := by
  rw [textValues, List.filter_append, List.map_append, textValues, textValues]

theorem textValues_cons_of_pos (hname : lowercase f.1 = name) (h : IsTextValue f.2) :
    textValues (f :: fields) name = f.2 :: textValues fields name := by
  rw [textValues, List.filter_cons_of_pos (by simp [hname, h]), List.map_cons, textValues]

theorem textValues_cons_of_neg (h : ¬ (lowercase f.1 = name ∧ IsTextValue f.2)) :
    textValues (f :: fields) name = textValues fields name := by
  rw [textValues, List.filter_cons_of_neg (by simpa using h), textValues]

theorem intercalate_concat {separator value : Bytes} (h : values ≠ []) :
    separator.intercalate (values ++ [value]) =
      separator.intercalate values ++ separator ++ value := by
  induction values with
  | nil => exact absurd rfl h
  | cons first values ih =>
    cases values with
    | nil => simp
    | cons second values =>
      have hrest := ih (List.cons_ne_nil second values)
      rw [List.cons_append, List.cons_append, List.intercalate_cons_cons, ← List.cons_append,
        hrest, List.intercalate_cons_cons]
      simp only [List.append_assoc]

theorem joined_concat (values : List Bytes) (value : Bytes) :
    joined (values ++ [value]) =
      some ((joined values).elim value (· ++ Bytes.ofText ", " ++ value)) := by
  rw [joined, if_neg (by simp), joined]
  by_cases h : values = []
  · rw [if_pos h, h, List.nil_append, List.intercalate_singleton]
    rfl
  · rw [if_neg h, intercalate_concat h]
    rfl

/-! ## All fields -/

/-- Under a name there are its texts, joined in order of arrival. -/
theorem map_ofText_get?_collectFields (fields : List (String × Bytes)) (name : String) :
    ((collectFields fields).get? name).map Bytes.ofText = joined (textValues fields name) := by
  -- The last field is the one that is added last.
  induction fields using List.reverseRecOn with
  | nil => rfl
  | append_singleton fields f ih =>
    rw [textValues_append]
    by_cases h : IsTextValue f.2
    · obtain ⟨text, htext, hvalue⟩ := h.exists_fieldText?
      rw [collectFields_concat htext, Table.get?_insert]
      by_cases hname : lowercase f.1 = name
      · rw [if_pos hname, hname, textValues_cons_of_pos hname h, textValues_nil, joined_concat,
          ← ih, ← hvalue]
        cases (collectFields fields).get? name with
        | none => rfl
        | some earlier => simp only [Option.elim_some, Option.map_some, Bytes.ofText_append]
      · rw [if_neg hname, ih, textValues_cons_of_neg fun hf => hname hf.1, textValues_nil,
          List.append_nil]
    · rw [collectFields_append_cons h, List.append_nil, ih, textValues_cons_of_neg fun hf => h hf.2,
        textValues_nil, List.append_nil]

theorem get?_collectFields_eq_some_iff :
    (collectFields fields).get? name = some text ↔
      textValues fields name ≠ [] ∧
        Bytes.ofText text = (Bytes.ofText ", ").intercalate (textValues fields name) := by
  have hjoined := map_ofText_get?_collectFields fields name
  rw [joined] at hjoined
  split at hjoined
  · next hnone =>
    rw [Option.map_eq_none_iff] at hjoined
    simp [hjoined, hnone]
  · next hsome =>
    obtain ⟨found, hfound, hvalue⟩ := Option.map_eq_some_iff.mp hjoined
    rw [hfound, ← hvalue, Option.some.injEq]
    constructor
    · rintro rfl
      exact ⟨hsome, rfl⟩
    · rintro ⟨-, htext⟩
      -- A text is told by its bytes.
      have hsame := congrArg Bytes.text? htext
      rw [Bytes.text?_ofText, Bytes.text?_ofText] at hsame
      exact (Option.some.inj hsame).symm

theorem textValues_ne_nil_iff :
    textValues fields name ≠ [] ↔ ∃ f ∈ fields, lowercase f.1 = name ∧ IsTextValue f.2 := by
  simp [textValues, List.filter_eq_nil_iff]

/-- A name is there exactly if it has a value that is a text. -/
theorem mem_keys_collectFields_iff :
    name ∈ (collectFields fields).keys ↔
      ∃ f ∈ fields, lowercase f.1 = name ∧ IsTextValue f.2 := by
  rw [Table.mem_keys_iff, ← Option.isSome_map (f := Bytes.ofText), map_ofText_get?_collectFields,
    ← textValues_ne_nil_iff, joined]
  split
  · next hnone => simp [hnone]
  · next hsome => simp [hsome]

/-! ## Fields in another order -/

/-- Each name keeps its values when neighbours with different names change places. -/
theorem SwapsNames.textValues_eq (h : SwapsNames fields fields') (name : String) :
    textValues fields' name = textValues fields name := by
  obtain ⟨before, after, f, g, names⟩ := h
  rw [textValues_append, textValues_append]
  by_cases hf : lowercase f.1 = name ∧ IsTextValue f.2
  · -- Then the other one has another name.
    have hg : ¬ (lowercase g.1 = name ∧ IsTextValue g.2) := fun hg => names (hf.1.trans hg.1.symm)
    rw [textValues_cons_of_neg hg, textValues_cons_of_pos hf.1 hf.2,
      textValues_cons_of_pos hf.1 hf.2, textValues_cons_of_neg hg]
  · by_cases hg : lowercase g.1 = name ∧ IsTextValue g.2
    · rw [textValues_cons_of_pos hg.1 hg.2, textValues_cons_of_neg hf, textValues_cons_of_neg hf,
        textValues_cons_of_pos hg.1 hg.2]
    · rw [textValues_cons_of_neg hg, textValues_cons_of_neg hf, textValues_cons_of_neg hf,
        textValues_cons_of_neg hg]

theorem textValues_eq_of_swaps (h : Relation.ReflTransGen SwapsNames fields fields')
    (name : String) : textValues fields' name = textValues fields name := by
  induction h with
  | refl => rfl
  | tail _ hswap ih => rw [hswap.textValues_eq, ih]

/-! ## The response that a client gives out -/

/-- A client that gets an answer gives out the response that arrived, as a success or in a failure. -/
theorem Client.response?_send {σ : Type} {client : Client} {network : Network σ}
    {request : Request} {wire : WireRequest} {answer : WireResponse} {state state' : σ}
    (hprepare : client.prepare request = .ok wire)
    (hexchange : network.exchange wire state = (.ok answer, state')) :
    ((client.transport network).send request state).1.response? = some (responseOf answer) := by
  simp only [transport, hprepare, hexchange]
  exact response?_receive

/-- The headers of a response.

The headers of a sequence of fields have exactly the names that have a text among their values, and
under each of them these texts, joined by commas in order of arrival. So it does not matter how the
fields of different names are mixed, and a value that is no text takes away nothing but itself. These
are the headers of the response that a client gives out, whatever its status is. -/
theorem collectFields_joins_texts (fields : List (String × Bytes)) :
    (∀ name text, (collectFields fields).get? name = some text ↔
      textValues fields name ≠ [] ∧
        Bytes.ofText text = (Bytes.ofText ", ").intercalate (textValues fields name)) ∧
    (∀ name, name ∈ (collectFields fields).keys ↔
      ∃ f ∈ fields, lowercase f.1 = name ∧ IsTextValue f.2) ∧
    (∀ fields', Relation.ReflTransGen SwapsNames fields fields' →
      ∀ name, (collectFields fields').get? name = (collectFields fields).get? name) ∧
    (∀ before f after, fields = before ++ f :: after → ¬ IsTextValue f.2 →
      collectFields fields = collectFields (before ++ after)) ∧
    ∀ (σ : Type) (client : Client) (network : Network σ) (request : Request) (wire : WireRequest)
      (code : UInt16) (body : Bytes) (state state' : σ),
      client.prepare request = .ok wire →
      network.exchange wire state = (.ok ⟨code, fields, body⟩, state') →
        ((client.transport network).send request state).1.response? =
          some ⟨code, collectFields fields, body⟩ := by
  refine ⟨fun name text => get?_collectFields_eq_some_iff,
    fun name => mem_keys_collectFields_iff, fun fields' hswaps name => ?_, ?_, ?_⟩
  · apply Option.ext
    intro text
    rw [get?_collectFields_eq_some_iff, get?_collectFields_eq_some_iff,
      textValues_eq_of_swaps hswaps]
  · rintro before f after rfl hvalue
    exact collectFields_append_cons hvalue
  · intro σ client network request wire code body state state' hprepare hexchange
    exact Client.response?_send hprepare hexchange

/-- A name in two cases, with a value between them that is no text. -/
theorem collectFields_joins_texts_sample :
    let raw : String × Bytes := ("X-Raw", [0xFF])
    let first : String × Bytes := ("Set-Cookie", Bytes.ofText "a=1")
    let rest : List (String × Bytes) := [("set-cookie", Bytes.ofText "b=2"), ("x-empty", [])]
    let network : Network Nat := ⟨fun _ n => (.ok ⟨404, first :: raw :: rest, []⟩, n + 1)⟩
    let client : Client := ⟨.default, .empty⟩
    (collectFields (first :: raw :: rest)).get? "set-cookie" = some "a=1, b=2" ∧
      (collectFields (first :: raw :: rest)).get? "x-empty" = some "" ∧
      "x-raw" ∉ (collectFields (first :: raw :: rest)).keys ∧
      (collectFields (raw :: first :: rest)).get? "set-cookie" = some "a=1, b=2" ∧
      collectFields (first :: raw :: rest) = collectFields (first :: rest) ∧
      ((client.transport network).send (.bare .get "http://h/a") 0).1.response? =
        some ⟨404, collectFields (first :: raw :: rest), []⟩ := by
  intro raw first rest network client
  obtain ⟨hget, hkeys, hswaps, hvalue, hsend⟩ := collectFields_joins_texts (first :: raw :: rest)
  have hcookie : (collectFields (first :: raw :: rest)).get? "set-cookie" = some "a=1, b=2" :=
    (hget _ _).mpr ⟨by decide, by decide⟩
  have hswap : SwapsNames (first :: raw :: rest) (raw :: first :: rest) :=
    .swap [] rest first raw (by decide)
  obtain ⟨wire, hprepare⟩ : ∃ wire, client.prepare (.bare .get "http://h/a") = .ok wire :=
    exists_eq_ok_iff.mpr (by decide +kernel)
  refine ⟨hcookie, (hget _ _).mpr ⟨by decide, by decide⟩, ?_, ?_, ?_, ?_⟩
  · rw [hkeys]
    decide
  · rw [hswaps _ (.single hswap), hcookie]
  · exact hvalue [first] raw rest rfl (by decide)
  · exact hsend Nat client network _ wire 404 [] 0 1 hprepare rfl

end MethodRoutes
