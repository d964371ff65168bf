import MethodRoutes.Proofs.Json.Reader

/-!
# Texts of `null` and of strings

A whole text is read as `null` if it is that word between blanks, and as a string if it is one,
spelled by the rules, between blanks. No other rule of the grammar gives either of them, so this
follows by an induction on the derivation in which only the blanks take a step.

## Main definitions

* `Json.IsNullDocument` — the texts of `null`

## Main results

* `Json.Value.parse_eq_null_iff`, `Json.Value.parse_eq_string_iff` — which texts are read as `null`
  and as a string
-/

namespace MethodRoutes.Json

/-- The text is `null`, with or without blanks around it. -/
def IsNullDocument (input : Bytes) : Prop :=
  ∃ before after, input = before ++ ([0x6E, 0x75, 0x6C, 0x6C] ++ after) ∧ IsBlank before ∧
    IsBlank after

variable {input before after written : Bytes} {text : String} {depth : Nat}

theorem IsNullDocument.padded (h : IsNullDocument written) (hbefore : IsBlank before)
    (hafter : IsBlank after) : IsNullDocument (before ++ (written ++ after)) := by
  obtain ⟨start, stop, rfl, hstart, hstop⟩ := h
  refine ⟨before ++ start, stop ++ after, ?_, hbefore.append hstart, hstop.append hafter⟩
  simp only [List.cons_append, List.append_assoc]

theorem IsStringDocument.padded (h : IsStringDocument written text) (hbefore : IsBlank before)
    (hafter : IsBlank after) : IsStringDocument (before ++ (written ++ after)) text := by
  obtain ⟨start, spelled, stop, rfl, hstart, hspells, hstop⟩ := h
  refine ⟨before ++ start, spelled, stop ++ after, ?_, hbefore.append hstart, hspells,
    hstop.append hafter⟩
  simp only [List.cons_append, List.append_assoc]

theorem denotes_null_iff : Denotes depth input .null ↔ IsNullDocument input := by
  constructor
  · intro h
    generalize hv : Value.null = v at h
    induction h with
    | null => exact ⟨[], [], rfl, isBlank_nil, isBlank_nil⟩
    | padded hbefore hafter _ ih => exact (ih hv).padded hbefore hafter
    | _ => cases hv
  · rintro ⟨before, after, rfl, hbefore, hafter⟩
    exact .padded hbefore hafter .null

theorem denotes_string_iff : Denotes depth input (.string text) ↔ IsStringDocument input text := by
  constructor
  · intro h
    generalize hv : Value.string text = v at h
    induction h with
    | string hspells =>
      cases hv
      exact ⟨[], _, [], rfl, isBlank_nil, hspells, isBlank_nil⟩
    | padded hbefore hafter _ ih => exact (ih hv).padded hbefore hafter
    | _ => cases hv
  · rintro ⟨before, written, after, rfl, hbefore, hspells, hafter⟩
    have hstring : Denotes depth (0x22 :: (written ++ [0x22])) (.string text) := .string hspells
    have hpadded := Denotes.padded hbefore hafter hstring
    rwa [List.cons_append, List.append_assoc] at hpadded

namespace Value

theorem parse_eq_null_iff : parse input = .ok .null ↔ IsNullDocument input :=
  parse_eq_ok_iff.trans denotes_null_iff

theorem parse_eq_string_iff : parse input = .ok (.string text) ↔ IsStringDocument input text :=
  parse_eq_ok_iff.trans denotes_string_iff

end Value

end MethodRoutes.Json
