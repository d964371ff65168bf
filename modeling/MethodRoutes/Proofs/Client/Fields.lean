import Mathlib.Logic.Basic
import Mathlib.Tactic.MkIffOfInductiveProp
import MethodRoutes.Client.Basic
import MethodRoutes.Proofs.Except

/-!
# Header fields as lookups

Headers are told apart by the case of their names, and fields are not. So when headers become fields
several of them can fall together, and the one that is added last stays. Fields are described here
by what a lookup finds in them: the last of the headers with a name, and where there is none, the
default with that name.

## Main definitions

* `IsSendable` — a header that is admitted on the wire
* `Fields.IsLower` — all names are in lowercase

## Main results

* `Fields.ofEntries_eq_ok_iff`, `Fields.exists_ofEntries_eq_error_iff` — headers become fields if all of
  them are admitted, and are refused otherwise
* `Fields.get?_of_ofEntries`, `Fields.get?_withDefaults` — what is found among fields
* `Fields.filter_sameName` — a field occurs once, whatever the case of the name that is looked for
-/

namespace MethodRoutes

/-! ## Names up to case -/

theorem toLower_of_not_isUpper {c : Char} (h : ¬ c.isUpper = true) : c.toLower = c :=
  dif_neg fun hupper => h (decide_eq_true hupper)

/-- A capital letter becomes a small one. -/
theorem isLower_toLower {c : Char} (h : c.isUpper = true) :
    c.toLower.isLower = true ∧ c.toLower.isUpper = false := by
  have hcapitals : ∀ n < 0x5B, (Char.ofNat n).isUpper = true →
      (Char.ofNat n).toLower.isLower = true ∧ (Char.ofNat n).toLower.isUpper = false := by decide
  have hle : c.val ≤ 0x5A := (of_decide_eq_true h).2
  have hlt : c.toNat < 0x5B := Nat.lt_succ_of_le (UInt32.le_iff_toNat_le.mp hle)
  have hc := hcapitals c.toNat hlt
  rw [Char.ofNat_toNat] at hc
  exact hc h

theorem toLower_toLower (c : Char) : c.toLower.toLower = c.toLower := by
  by_cases hupper : c.isUpper = true
  · exact toLower_of_not_isUpper (Bool.eq_false_iff.mp (isLower_toLower hupper).2)
  · rw [toLower_of_not_isUpper hupper, toLower_of_not_isUpper hupper]

theorem lowercase_lowercase (name : String) : lowercase (lowercase name) = lowercase name := by
  rw [lowercase, lowercase, String.toList_ofList, List.map_map]
  exact congrArg String.ofList (List.map_congr_left fun c _ => toLower_toLower c)

theorem Call.sameName_iff {a b : String} : sameName a b = true ↔ lowercase a = lowercase b := by
  simp [sameName, lowercase, String.ofList_inj]

/-- A header that is admitted on the wire. -/
@[mk_iff]
structure IsSendable (header : String × String) : Prop where
  /-- The name can be that of a field. -/
  name : isFieldName header.1 = true
  /-- The value can be that of a field. -/
  value : isFieldValue header.2 = true

instance (header : String × String) : Decidable (IsSendable header) :=
  decidable_of_iff _ (isSendable_iff header).symm

namespace Fields

variable {fields fields' defaults : Fields} {entries : List (String × String)}
  {header : String × String} {name value : String}

/-! ## What headers become -/

theorem add_eq_ok_iff :
    fields.add header = .ok fields' ↔
      IsSendable header ∧ fields' = fields.insert (lowercase header.1) header.2 := by
  rw [add]
  by_cases hname : isFieldName header.1 = true
  · by_cases hvalue : isFieldValue header.2 = true
    · have hsendable : IsSendable header := ⟨hname, hvalue⟩
      simp [hname, hvalue, hsendable, eq_comm]
    · have hnot : ¬ IsSendable header := fun h => hvalue h.value
      simp [hname, hvalue, hnot]
  · have hnot : ¬ IsSendable header := fun h => hname h.name
    simp [hname, hnot]

/-- Headers can be added exactly if each of them is admitted, and then they are inserted under their
names in lowercase, one after the other. -/
theorem foldlM_add_eq_ok_iff :
    entries.foldlM add fields = .ok fields' ↔
      (∀ e ∈ entries, IsSendable e) ∧
        fields' = fields.insertAll (entries.map fun e => (lowercase e.1, e.2)) := by
  induction entries generalizing fields with
  | nil => simp [Table.insertAll, pure, Except.pure, eq_comm]
  | cons e entries ih =>
    -- The rest is added to what the first header has been added to.
    rw [List.foldlM_cons, bind_eq_ok_iff]
    simp only [add_eq_ok_iff, ih, List.forall_mem_cons, Table.insertAll, List.map_cons,
      List.foldl_cons]
    constructor
    · rintro ⟨_, ⟨he, rfl⟩, hentries, rfl⟩
      exact ⟨⟨he, hentries⟩, rfl⟩
    · rintro ⟨⟨he, hentries⟩, rfl⟩
      exact ⟨_, ⟨he, rfl⟩, hentries, rfl⟩

theorem ofEntries_eq_ok_iff :
    ofEntries entries = .ok fields ↔
      (∀ e ∈ entries, IsSendable e) ∧
        fields = Table.ofList (entries.map fun e => (lowercase e.1, e.2)) :=
  foldlM_add_eq_ok_iff

theorem exists_ofEntries_iff :
    (∃ fields, ofEntries entries = .ok fields) ↔ ∀ e ∈ entries, IsSendable e := by
  simp [ofEntries_eq_ok_iff]

/-- One header that is not admitted stops all of them. -/
theorem exists_ofEntries_eq_error_iff :
    (∃ e, ofEntries entries = .error e) ↔ ∃ header ∈ entries, ¬ IsSendable header := by
  rw [exists_eq_error_iff, exists_ofEntries_iff]
  simp only [not_forall, exists_prop]

/-- Of the headers with a name, in whatever case, the last one decides. -/
theorem get?_of_ofEntries (h : ofEntries entries = .ok fields) (name : String) :
    fields.get? name =
      (entries.filterMap fun e => if lowercase e.1 = name then some e.2 else none).getLast? := by
  obtain ⟨-, rfl⟩ := ofEntries_eq_ok_iff.mp h
  rw [Table.ofList, Table.get?_insertAll, List.filterMap_map, Table.get?_empty, Option.or_none]
  rfl

theorem exists_mem_of_get? (h : ofEntries entries = .ok fields)
    (hget : fields.get? name = some value) :
    ∃ e ∈ entries, lowercase e.1 = name ∧ e.2 = value := by
  rw [get?_of_ofEntries h] at hget
  obtain ⟨e, he, hvalue⟩ := List.mem_filterMap.mp (List.mem_of_getLast? hget)
  by_cases hname : lowercase e.1 = name
  · rw [if_pos hname, Option.some.injEq] at hvalue
    exact ⟨e, he, hname, hvalue⟩
  · rw [if_neg hname] at hvalue
    cases hvalue

theorem exists_get?_of_mem (h : ofEntries entries = .ok fields) (he : header ∈ entries) :
    ∃ value, fields.get? (lowercase header.1) = some value := by
  rw [get?_of_ofEntries h, ← Option.isSome_iff_exists, List.getLast?_isSome]
  apply List.ne_nil_of_mem
  exact List.mem_filterMap.mpr ⟨header, he, if_pos rfl⟩

/-- The header that is added last is found. -/
theorem get?_of_ofEntries_append (h : ofEntries (entries ++ [header]) = .ok fields) :
    fields.get? (lowercase header.1) = some header.2 := by
  rw [get?_of_ofEntries h]
  simp

/-! ## Defaults -/

/-- Defaults are inserted where there is no field. -/
theorem withDefaults_eq_insertAll (fields defaults : Fields) :
    fields.withDefaults defaults =
      fields.insertAll (defaults.entries.filter fun e => !fields.contains e.1) := by
  rw [withDefaults, Table.insertAll, List.foldl_filter]
  congr 1
  funext acc e
  cases fields.contains e.1 <;> rfl

/-- What is not found among the fields is looked for among the defaults. -/
theorem get?_withDefaults (fields defaults : Fields) (name : String) :
    (fields.withDefaults defaults).get? name = (fields.get? name).or (defaults.get? name) := by
  rw [withDefaults_eq_insertAll, Table.get?_insertAll, List.filterMap_filter]
  cases hname : fields.get? name with
  | some value =>
    -- Every default with the name is left out.
    have hnone : (defaults.entries.filterMap fun e =>
        if (!fields.contains e.1) = true then if e.1 = name then some e.2 else none
        else none) = [] := by
      rw [List.filterMap_eq_nil_iff]
      intro e _
      by_cases he : e.1 = name
      · simp [he, Table.contains, hname]
      · simp [he]
    rw [hnone]
    rfl
  | none =>
    have hall : (fun e : String × String =>
        if (!fields.contains e.1) = true then if e.1 = name then some e.2 else none else none) =
        fun e => if e.1 = name then some e.2 else none := by
      funext e
      by_cases he : e.1 = name
      · simp [he, Table.contains, hname]
      · simp [he]
    rw [hall, Table.filterMap_entries]
    cases defaults.get? name <;> rfl

/-! ## Names in lowercase -/

/-- All names are in lowercase. -/
def IsLower (fields : Fields) : Prop :=
  ∀ name value, fields.get? name = some value → lowercase name = name

theorem isLower_of_ofEntries (h : ofEntries entries = .ok fields) : fields.IsLower := by
  intro name value hget
  obtain ⟨e, -, rfl, -⟩ := exists_mem_of_get? h hget
  exact lowercase_lowercase e.1

/-- Among fields in lowercase there is one field with a name, whatever the case of the name. -/
theorem filter_sameName (h : fields.IsLower) (name : String) :
    fields.entries.filter (fun f => Call.sameName name f.1) =
      (fields.get? (lowercase name)).toList.map fun value => (lowercase name, value) := by
  -- A name in lowercase is the same up to case only as the one that is looked for in lowercase.
  rw [← Table.filter_entries]
  apply List.filter_congr
  intro f hf
  have hlower : lowercase f.1 = f.1 := h f.1 f.2 ((Table.mem_entries_iff fields f.1 f.2).mp hf)
  rw [Bool.eq_iff_iff, Call.sameName_iff, hlower, decide_eq_true_iff, eq_comm]

end Fields

end MethodRoutes
