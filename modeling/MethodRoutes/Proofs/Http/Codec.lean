import MethodRoutes.Http.Codec
import MethodRoutes.Proofs.Json.Reader

/-!
# What the codec makes of a body

A body that is a JSON text decodes as what it denotes, whatever the name of the expected type is.
The name matters for other bodies only: where it stands for text, such a body is taken as the text
itself, if it is one. A body that is no text is never decoded, because every JSON text is one.

## Main results

* `Codec.decode_json_eq_ok_iff` — which bodies are decoded, and as what
* `Codec.decode_json_with_fallback` — what the name of the expected type changes
-/

namespace MethodRoutes.Codec

open Json (Value Denotes)
open Bytes (IsText)

variable {body : Bytes} {typeName text : String} {v : Value} {cause : Json.Located}

theorem isTextName_iff : isTextName typeName = true ↔ typeName ∈ ["String", "str", "&str"] := by
  simp [isTextName, or_assoc]

/-! ## The cases of the codec -/

theorem decode_json_of_parse (h : Value.parse body = .ok v) :
    json.decode body (.value typeName) = .ok v := by
  change decodeJson body (.value typeName) = .ok v
  rw [decodeJson, h]

theorem decode_json_of_isTextName (htext : isTextName typeName = true)
    (h : Value.parse (Bytes.ofText text) = .error cause) :
    json.decode (Bytes.ofText text) (.value typeName) = .ok (.string text) := by
  change decodeJson (Bytes.ofText text) (.value typeName) = .ok (.string text)
  rw [decodeJson, h]
  dsimp only
  rw [htext, Bytes.text?_ofText]

theorem decode_json_of_not_isTextName (htext : isTextName typeName = false)
    (h : Value.parse body = .error cause) :
    json.decode body (.value typeName) = .error (.decode typeName cause.message) := by
  change decodeJson body (.value typeName) = _
  rw [decodeJson, h]
  dsimp only
  rw [htext]

/-- A body that is no text is not decoded as one. -/
theorem decode_json_of_not_isText (hbody : ¬ IsText body) (h : Value.parse body = .error cause) :
    json.decode body (.value typeName) = .error (.decode typeName cause.message) := by
  have htext : Bytes.text? body = none := by
    apply Option.eq_none_iff_forall_ne_some.mpr
    intro text hsome
    exact hbody ⟨text, Bytes.text?_eq_some_iff.mp hsome⟩
  change decodeJson body (.value typeName) = _
  rw [decodeJson, h]
  dsimp only
  rw [htext]
  cases isTextName typeName <;> rfl

/-- What becomes of a body that is no JSON text. -/
theorem decode_json_of_parse_eq_error (h : Value.parse body = .error cause) :
    json.decode body (.value typeName) = .error (.decode typeName cause.message) ∨
      isTextName typeName = true ∧ ∃ text, body = Bytes.ofText text ∧
        json.decode body (.value typeName) = .ok (.string text) := by
  by_cases hbody : IsText body
  · obtain ⟨text, rfl⟩ := hbody
    cases hname : isTextName typeName with
    | true => exact .inr ⟨rfl, text, rfl, decode_json_of_isTextName hname h⟩
    | false => exact .inl (decode_json_of_not_isTextName hname h)
  · exact .inl (decode_json_of_not_isText hbody h)

/-! ## Which bodies are decoded -/

/-- A body that is no JSON text denotes nothing. -/
theorem not_exists_denotes_of_parse (h : Value.parse body = .error cause) :
    ¬ ∃ w, Denotes 127 body w := by
  rintro ⟨w, hdenotes⟩
  rw [Json.Value.parse_eq_ok_iff.mpr hdenotes] at h
  cases h

/-- A body is decoded as the value that it denotes. One that denotes nothing is decoded only where
text is expected, as the text that it is. -/
theorem decode_json_eq_ok_iff :
    json.decode body (.value typeName) = .ok v ↔
      Denotes 127 body v ∨ isTextName typeName = true ∧
        (¬ ∃ w, Denotes 127 body w) ∧
          ∃ text, body = Bytes.ofText text ∧ v = .string text := by
  cases hparse : Value.parse body with
  | ok w =>
    have hdenotes : Denotes 127 body w := Json.Value.parse_eq_ok_iff.mp hparse
    constructor
    · intro h
      rw [decode_json_of_parse hparse] at h
      cases h
      exact .inl hdenotes
    · rintro (hvalue | ⟨-, hnone, -⟩)
      · exact decode_json_of_parse (Json.Value.parse_eq_ok_iff.mpr hvalue)
      · exact absurd ⟨w, hdenotes⟩ hnone
  | error cause =>
    have hnone := not_exists_denotes_of_parse hparse
    constructor
    · intro h
      rcases decode_json_of_parse_eq_error hparse with hfails | ⟨hname, text, hbody, hgives⟩
      · rw [hfails] at h
        cases h
      · rw [hgives] at h
        cases h
        exact .inr ⟨hname, hnone, text, hbody, rfl⟩
    · rintro (hvalue | ⟨hname, -, text, rfl, rfl⟩)
      · exact absurd ⟨v, hvalue⟩ hnone
      · exact decode_json_of_isTextName hname hparse

/-- Where text is expected, the bodies that are texts are decoded, and no others are. -/
theorem exists_decode_json_iff (hname : isTextName typeName = true) :
    (∃ v, json.decode body (.value typeName) = .ok v) ↔ IsText body := by
  constructor
  · rintro ⟨v, h⟩
    rcases decode_json_eq_ok_iff.mp h with hdenotes | ⟨-, -, text, rfl, -⟩
    · exact hdenotes.isText
    · exact ⟨text, rfl⟩
  · rintro ⟨text, rfl⟩
    by_cases hsome : ∃ w, Denotes 127 (Bytes.ofText text) w
    · obtain ⟨w, hdenotes⟩ := hsome
      exact ⟨w, decode_json_eq_ok_iff.mpr (.inl hdenotes)⟩
    · exact ⟨.string text, decode_json_eq_ok_iff.mpr (.inr ⟨hname, hsome, text, rfl, rfl⟩)⟩

/-- A failure names the type that was expected. -/
theorem exists_message_of_decode_json {e : CodecError}
    (h : json.decode body (.value typeName) = .error e) :
    ∃ message, e = .decode typeName message := by
  cases hparse : Value.parse body with
  | ok v =>
    rw [decode_json_of_parse hparse] at h
    cases h
  | error cause =>
    rcases decode_json_of_parse_eq_error hparse with hfails | ⟨-, text, -, hgives⟩
    · rw [hfails] at h
      cases h
      exact ⟨_, rfl⟩
    · rw [hgives] at h
      cases h

/-- The name of a text type adds a fallback and changes nothing else. With it the bodies that are
texts are decoded, each as the value that it denotes, or as the text itself if it denotes nothing.
With any other name the bodies that denote a value are decoded, as this value. So a body that
denotes a value is decoded alike under all names, and every failure carries the name that was
given. -/
theorem decode_json_with_fallback (body : Bytes) :
    (∀ typeName ∈ ["String", "str", "&str"],
      ((∃ v, json.decode body (.value typeName) = .ok v) ↔ ∃ text, body = Bytes.ofText text) ∧
      ∀ v, json.decode body (.value typeName) = .ok v ↔
        Denotes 127 body v ∨
          (¬ ∃ w, Denotes 127 body w) ∧
            ∃ text, body = Bytes.ofText text ∧ v = .string text) ∧
    (∀ typeName ∉ ["String", "str", "&str"], ∀ v,
      json.decode body (.value typeName) = .ok v ↔ Denotes 127 body v) ∧
    (∀ v, Denotes 127 body v → ∀ typeName, json.decode body (.value typeName) = .ok v) ∧
    ∀ typeName e, json.decode body (.value typeName) = .error e →
      ∃ message, e = .decode typeName message := by
  refine ⟨fun typeName hmem => ?_, fun typeName hmem v => ?_, fun v hdenotes typeName => ?_,
    fun typeName e h => exists_message_of_decode_json h⟩
  · have hname := isTextName_iff.mpr hmem
    refine ⟨exists_decode_json_iff hname, fun v => ?_⟩
    rw [decode_json_eq_ok_iff, hname, eq_self_iff_true, true_and]
  · have hname : isTextName typeName ≠ true := fun hname => hmem (isTextName_iff.mp hname)
    rw [decode_json_eq_ok_iff, or_iff_left fun h => hname h.1]
  · exact decode_json_eq_ok_iff.mpr (.inl hdenotes)

/-- An object is decoded alike under all names, with the last of two fields that have one key, the
characters that are escaped, and the number that the digits are converted to, which is not the
nearest one. An unfinished list and a number that becomes infinite are texts only, and a string with
half of a character in it is decoded under no name. -/
theorem decode_json_with_fallback_sample :
    let object := Bytes.ofText
      "\x7b\"w\": 1, \"v\": \"\\u00e9\\ud83d\\ude00\\n\", \"w\": 51.248178375505404\x7d"
    let value : Value :=
      .object [("v", .string "é😀\n"), ("w", .number (.float (.ofBits 0x40499FC44F1B2F61)))]
    json.decode object (.value "String") = .ok value ∧
      json.decode object (.value "Tree") = .ok value ∧
      (∀ text ∈ ["[1,", "1.7976931348623158e308"],
        json.decode (Bytes.ofText text) (.value "&str") = .ok (.string text) ∧
          ∀ v, json.decode (Bytes.ofText text) (.value "Tree") ≠ .ok v) ∧
      ∃ message, json.decode [0x22, 0xC3, 0x22] (.value "String") =
        .error (.decode "String" message) := by
  intro object value
  have hobject : Denotes 127 object value :=
    Json.Value.parse_eq_ok_iff.mp (by with_unfolding_all rfl)
  obtain ⟨-, -, halike, -⟩ := decode_json_with_fallback object
  obtain ⟨-, -, -, hfailure⟩ := decode_json_with_fallback [0x22, 0xC3, 0x22]
  refine ⟨halike _ hobject "String", halike _ hobject "Tree", fun text hmem => ?_, ?_⟩
  · have hrefused : ∀ text ∈ ["[1,", "1.7976931348623158e308"],
        (Value.parse (Bytes.ofText text)).isOk = false := by decide +kernel
    have hnone : ¬ ∃ w, Denotes 127 (Bytes.ofText text) w := by
      rintro ⟨w, hdenotes⟩
      have hok := hrefused text hmem
      rw [Json.Value.parse_eq_ok_iff.mpr hdenotes] at hok
      cases hok
    obtain ⟨hfallback, hstrict, -, -⟩ := decode_json_with_fallback (Bytes.ofText text)
    refine ⟨((hfallback "&str" (by decide)).2 _).mpr (.inr ⟨hnone, text, rfl, rfl⟩), fun v h => ?_⟩
    exact hnone ⟨v, (hstrict "Tree" (by decide) v).mp h⟩
  · have hrefused : ∃ e, json.decode [0x22, 0xC3, 0x22] (.value "String") = .error e := ⟨_, rfl⟩
    obtain ⟨e, he⟩ := hrefused
    obtain ⟨message, rfl⟩ := hfailure "String" e he
    exact ⟨message, he⟩

end MethodRoutes.Codec
