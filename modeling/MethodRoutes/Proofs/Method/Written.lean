import MethodRoutes.Method.Json
import MethodRoutes.Proofs.Json.Restoring

/-!
# Descriptions that are written and read again

A description is written with all its parts, except for a verb that is not declared. The parts are
written in ways of their own: a verb, a return kind and the absence of a result by a name, a result
by a name with content, and each parameter as a record inside of the list of parameters. The formats
give back each of these, and a description reads its fields into the draft that it is made from, so
nothing is lost.

A text that was not written like this may leave out more, or have its fields in another order or as
a list. Whatever description it is read as, writing that one gives a text with the same content.

## Main results

* `Verb.restores`, `ReturnKind.restores`, `ResultType.restores`, `Parameter.restores`,
  `Method.restores` — the parts of a description and the whole
* `Method.decode_toJson` — a description is read again from its text
-/

namespace MethodRoutes

open Json Json.Format

theorem Verb.restores (v : Verb) : Verb.format.Restores (.string v.name) v :=
  restores_name (by cases v <;> rfl)

theorem ReturnKind.restores (k : ReturnKind) : ReturnKind.format.Restores (.string k.name) k :=
  restores_name (by cases k <;> rfl)

theorem ResultType.restores (r : ResultType) : ResultType.format.Restores r.toJson r := by
  cases r with
  | unit => exact restores_name rfl
  | value typeName => exact restores_content rfl typeName

theorem Parameter.restores (p : Parameter) : Parameter.format.Restores p.toJson p := by
  -- Each field is found under its key, and its part has not been given before.
  have hfields : Parameter.record.Collects Parameter.record.start
      [("name", .string p.name), ("type_name", .string p.typeName), ("body", .bool p.body),
        ("nullable", .bool p.nullable)]
      ⟨some p.name, some p.typeName, some p.body, some p.nullable⟩ :=
    .cons rfl rfl (Field.takes_of (restores_text p.name) _) <|
    .cons rfl rfl (Field.takes_of (restores_text p.typeName) _) <|
    .cons rfl rfl (Field.takes_of (restores_bool p.body) _) <|
    .cons rfl rfl (Field.takes_of (restores_bool p.nullable) _) .nil
  exact Record.restores hfields rfl

namespace Method

/-- The field of the verb is there only if a verb is declared. -/
theorem collects_verb (verb : Option Verb) (name : String) (parameters : List Parameter) :
    record.Collects ⟨some name, some parameters, none, none, none, none⟩
      (verb.toList.map fun v => ("verb", .string v.name))
      ⟨some name, some parameters, verb.map some, none, none, none⟩ := by
  cases verb with
  | none => exact .nil
  | some v => exact .cons rfl rfl (Field.takes_of (restores_some v.restores) _) .nil

theorem restores (m : Method) : format.Restores m.toJson m := by
  obtain ⟨name, parameters, verb, destination, returnKind, resultType⟩ := m
  have hparameters : (Format.list Parameter.format).Restores
      (.array (parameters.map Parameter.toJson)) parameters :=
    restores_list fun p _ => p.restores
  -- The fields before the verb, and those behind it; the draft says which parts there are.
  have hbefore : record.Collects record.start
      [("name", .string name), ("parameters", .array (parameters.map Parameter.toJson))]
      ⟨some name, some parameters, none, none, none, none⟩ :=
    .cons rfl rfl (Field.takes_of (restores_text name) _) <|
    .cons rfl rfl (Field.takes_of hparameters _) .nil
  have hafter : record.Collects ⟨some name, some parameters, verb.map some, none, none, none⟩
      [("destination", .string destination), ("return_kind", .string returnKind.name),
        ("result_type", resultType.toJson)]
      ⟨some name, some parameters, verb.map some, some destination, some returnKind,
        some resultType⟩ :=
    .cons rfl rfl (Field.takes_of (restores_text destination) _) <|
    .cons rfl rfl (Field.takes_of returnKind.restores _) <|
    .cons rfl rfl (Field.takes_of resultType.restores _) .nil
  have hfields := (hbefore.append (collects_verb verb name parameters)).append hafter
  refine Record.restores hfields ?_
  -- A verb that was left out is one that is not declared.
  cases verb
  all_goals rfl

/-- A description is read again from its text, whatever its parts are. So different descriptions
have different texts, and a description that has been read from any text comes back, with its
signature, when it is written and read once more. -/
theorem decode_toJson (m : Method) :
    format.decode (Bytes.ofText m.toJson.render) = .ok m ∧
    (∀ n : Method, m.toJson.render = n.toJson.render → m = n) ∧
    ∀ input n, format.decode input = .ok n →
      ∃ again, format.decode (Bytes.ofText n.toJson.render) = .ok again ∧
        again = n ∧ again.signature = n.signature := by
  refine ⟨m.restores.decode, fun n htext => ?_, fun input n _ =>
    ⟨n, n.restores.decode, rfl, rfl⟩⟩
  have hread := m.restores.decode
  rw [htext, n.restores.decode] at hread
  exact (Except.ok.inj hread).symm

/-- A description without a verb but with a result comes back, with texts that need escapes. One
that was read from fields in another order, with most of them left out, comes back as well. -/
theorem decode_toJson_sample :
    let m : Method := ⟨"find\n", [(Parameter.text "\"\\").asNullable], none, "/{0}\x01",
      .statusAware, .value "Vec<é>"⟩
    let n : Method := ⟨"find", [], none, "/", .plain, .value "u32"⟩
    let input := Bytes.ofText
      ("\x7b\"result_type\": \x7b\"value\": \"u32\"\x7d, \"x\": [1], " ++
        "\"destination\": \"/\", \"name\": \"f\\u0069nd\"\x7d")
    format.decode (Bytes.ofText m.toJson.render) = .ok m ∧
      format.decode input = .ok n ∧
      ∃ again, format.decode (Bytes.ofText n.toJson.render) = .ok again ∧
        again = n ∧ again.signature = n.signature := by
  intro m n input
  have hinput : format.decode input = .ok n := by rfl
  obtain ⟨hback, -, hagain⟩ := decode_toJson m
  exact ⟨hback, hinput, hagain input n hinput⟩

end Method

end MethodRoutes
