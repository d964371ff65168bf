import MethodRoutes.Client.Config
import MethodRoutes.Proofs.Json.Restoring

/-!
# Settings that are saved and loaded again

Settings are written without a root that is not set and without headers if there are none; a reader
fills these in with the same values. The other settings have defaults as well, but they are always
written. So settings are read from their text as they were, up to the greatest patience there is and
with the headers in their order, whatever that is.

What is read is checked before it counts as loaded, and what is saved is not. So saved settings are
loaded again exactly if they are valid, and settings that have been loaded always are.

## Main results

* `Config.restores` — settings are read from their text
* `Config.load_toJson` — settings are loaded from their text if they are valid
-/

namespace MethodRoutes.Config

open Json Json.Format

variable {c : Config}

/-- The field of the root is there only if there is one. -/
theorem collects_rootUrl (rootUrl : Option String) :
    record.Collects record.start (rootUrl.toList.map fun root => ("root_url", .string root))
      ⟨rootUrl.map some, none, none, none⟩ := by
  cases rootUrl with
  | none => exact .nil
  | some root => exact .cons rfl rfl (Field.takes_of (restores_some (restores_text root)) _) .nil

/-- The field of the headers is there only if there are some, and otherwise the default is none. -/
theorem collects_defaultHeaders (rootUrl : Option (Option String)) (timeoutMs : Nat)
    (headers : Headers) :
    ∃ written : Option Headers,
      record.Collects ⟨rootUrl, some timeoutMs, none, none⟩
        (if headers.isEmpty then []
          else [("default_headers", .object (headers.entries.map fun e => (e.1, .string e.2)))])
        ⟨rootUrl, some timeoutMs, written, none⟩ ∧
      written.getD default.defaultHeaders = headers := by
  by_cases hempty : headers.isEmpty = true
  · rw [if_pos hempty]
    exact ⟨none, .nil, Table.ext (List.isEmpty_iff.mp hempty).symm⟩
  · rw [if_neg hempty]
    have htable : (Format.table .text).Restores
        (.object (headers.entries.map fun e => (e.1, .string e.2))) headers :=
      restores_table fun e _ => restores_text e.2
    exact ⟨some headers, .cons rfl rfl (Field.takes_of htable _) .nil, rfl⟩

/-- Settings are read from their text, whatever they are. -/
theorem restores (c : Config) : format.Restores c.toJson c := by
  obtain ⟨rootUrl, timeoutMs, headers, errorOnStatus⟩ := c
  have htimeout : record.Collects ⟨rootUrl.map some, none, none, none⟩
      [("timeout_ms", .nat timeoutMs.toNat)] ⟨rootUrl.map some, some timeoutMs.toNat, none, none⟩ :=
    .cons rfl rfl (Field.takes_of (restores_natural timeoutMs.toNat_lt timeoutMs.toNat_lt) _) .nil
  obtain ⟨written, hheaders, hdefault⟩ :=
    collects_defaultHeaders (rootUrl.map some) timeoutMs.toNat headers
  have hswitch : record.Collects ⟨rootUrl.map some, some timeoutMs.toNat, written, none⟩
      [("error_on_status", .bool errorOnStatus)]
      ⟨rootUrl.map some, some timeoutMs.toNat, written, some errorOnStatus⟩ :=
    .cons rfl rfl (Field.takes_of (restores_bool errorOnStatus) _) .nil
  -- The fields in their order; what was left out is filled in when the draft is finished.
  have hfields := (((collects_rootUrl rootUrl).append htimeout).append hheaders).append hswitch
  refine Record.restores hfields ?_
  have hroot : (rootUrl.map some).getD default.rootUrl = rootUrl := by cases rootUrl <;> rfl
  have hpatience : UInt64.ofNat timeoutMs.toNat = timeoutMs := UInt64.ofNat_toNat
  simp only [record, Option.map_some, Option.getD_some, hroot, hpatience, hdefault]

theorem load_toJson_render (c : Config) : load c.toJson.render = c.validate.map fun _ => c := by
  rw [load, c.restores.decode]

/-- Settings that are valid are loaded from their text as they were saved, and any others fail with
the error of the check. So settings that have been loaded from any text are valid, and saving and
loading them again changes nothing. -/
theorem load_toJson (c : Config) :
    (c.validate = .ok () → load c.toJson.render = .ok c) ∧
    (∀ e, c.validate = .error e → load c.toJson.render = .error e) ∧
    ∀ text d, load text = .ok d → d.validate = .ok () ∧ load d.toJson.render = .ok d := by
  have hvalid : ∀ d : Config, d.validate = .ok () → load d.toJson.render = .ok d := by
    intro d hd
    rw [load_toJson_render, hd]
    rfl
  refine ⟨hvalid c, fun e he => ?_, fun text d hload => ?_⟩
  · rw [load_toJson_render, he]
    rfl
  · have hd : d.validate = .ok () := by
      rw [load] at hload
      split at hload
      · cases hload
      · obtain ⟨u, hd, rfl⟩ := map_eq_ok_iff.mp hload
        exact hd
    exact ⟨hd, hvalid d hd⟩

/-- Settings with the greatest patience and a header that needs escapes are loaded as they were, a
root that nothing can be relative to is refused on loading only, and settings that were written by
hand stay as they were read. -/
theorem load_toJson_sample :
    let c : Config := ⟨some "http://api/", 0xFFFFFFFFFFFFFFFF, .ofList [("x-\"a\"", "\t\\")], false⟩
    let bad : Config := default.withRootUrl "mailto:x"
    let kept : Config := ⟨none, 30000, .empty, false⟩
    let text := "\x7b\"error_on_status\": false, \"root_url\": null, \"x\": 1\x7d"
    load c.toJson.render = .ok c ∧
      load bad.toJson.render = .error (.notABase "mailto:x") ∧
      load text = .ok kept ∧
      load kept.toJson.render = .ok kept := by
  intro c bad kept text
  have hc : c.validate = .ok () := by
    have hok : c.validate.isOk = true := by decide +kernel
    cases hvalidate : c.validate with
    | ok u => rfl
    | error e =>
      rw [hvalidate] at hok
      cases hok
  have hbad : bad.validate = .error (.notABase "mailto:x") := by rfl
  have htext : load text = .ok kept := by rfl
  obtain ⟨hloads, -, hagain⟩ := load_toJson c
  obtain ⟨-, hrefused, -⟩ := load_toJson bad
  exact ⟨hloads hc, hrefused _ hbad, htext, (hagain text _ htext).2⟩

end MethodRoutes.Config
