import Mathlib.Data.List.Induction
import Mathlib.Data.List.Nodup
import MethodRoutes.Json.Value

/-!
# The fields of objects

A text may give a field of an object more than once, and in any order. The object has for each key
the last of the fields with it, in ascending order of the keys. This file says so without saying how
the object is built, and shows that fields which are added one after another become such an object.

Both parts of the statement are kept by each field that is added, so the induction is from the end
of the list. The fields in their order are determined by which ones there are.

## Main definitions

* `Json.IsLast` — no later field has the same key
* `Json.Merges` — the fields of an object, out of the fields in a text

## Main results

* `Json.Value.ofFields_eq_object_iff` — the object that is made of fields
-/

namespace MethodRoutes.Json

variable {members fields : List (String × Value)} {f g m : String × Value} {key : String}
  {value : Value}

/-- The field is among the members of an object, and no member behind it has its key. -/
def IsLast (members : List (String × Value)) (f : String × Value) : Prop :=
  ∃ before after, members = before ++ f :: after ∧ ∀ g ∈ after, g.1 ≠ f.1

/-- The members of an object make up these fields of it: the last one with each key, in ascending
order of the keys. -/
structure Merges (members fields : List (String × Value)) : Prop where
  /-- The keys are in order, and no key occurs twice. -/
  ascending : fields.Pairwise fun f g => f.1 < g.1
  /-- The last member with a key counts. -/
  mem_iff : ∀ f, f ∈ fields ↔ IsLast members f

/-! ## The last member with a key -/

theorem not_isLast_nil : ¬ IsLast [] f := by
  rintro ⟨before, after, h, -⟩
  exact List.append_ne_nil_of_right_ne_nil before (List.cons_ne_nil f after) h.symm

/-- A member that is added at the end is the last one with its key, and it leaves the other keys
alone. -/
theorem isLast_concat_iff : IsLast (members ++ [m]) f ↔ f = m ∨ m.1 ≠ f.1 ∧ IsLast members f := by
  constructor
  · rintro ⟨before, after, h, hafter⟩
    rcases List.eq_nil_or_concat after with rfl | ⟨after, m', rfl⟩
    · obtain ⟨-, hm⟩ := List.append_inj' h rfl
      exact .inl (List.singleton_inj.mp hm).symm
    · rw [List.concat_eq_append, ← List.cons_append, ← List.append_assoc] at h
      obtain ⟨hmembers, hm⟩ := List.append_inj' h rfl
      cases hm
      exact .inr ⟨hafter m (by simp), before, after, hmembers, fun g hg => hafter g (by simp [hg])⟩
  · rintro (rfl | ⟨hm, before, after, rfl, hafter⟩)
    · exact ⟨members, [], rfl, nofun⟩
    · refine ⟨before, after ++ [m], by simp, fun g hg => ?_⟩
      rcases List.mem_append.mp hg with hg | hg
      · exact hafter g hg
      · rw [List.mem_singleton.mp hg]
        exact hm

/-! ## Fields in order -/

namespace Value

/-- Setting a field replaces the one with its key. -/
theorem mem_setField_iff (h : fields.Pairwise fun f g => f.1 < g.1) :
    f ∈ setField key value fields ↔ f = (key, value) ∨ key ≠ f.1 ∧ f ∈ fields := by
  induction fields with
  | nil => simp [setField]
  | cons g rest ih =>
    obtain ⟨hfirst, hrest⟩ := List.pairwise_cons.mp h
    have hirrefl := String.lt_irrefl key
    rw [setField]
    split
    · next hlt =>
      -- All keys that are there lie above the new one.
      have hne : f ∈ g :: rest → key ≠ f.1 := by
        rintro hf rfl
        rcases List.mem_cons.mp hf with rfl | hf
        · exact hirrefl hlt
        · exact hirrefl (String.lt_trans hlt (hfirst f hf))
      rw [List.mem_cons, and_iff_right_of_imp hne]
    split
    · next heq =>
      have hne : f ∈ rest → key ≠ f.1 := by
        rintro hf rfl
        exact hirrefl (heq ▸ hfirst f hf)
      have hg : key ≠ f.1 → f ≠ g := by
        rintro hkey rfl
        exact hkey heq
      rw [List.mem_cons, List.mem_cons, and_or_left, or_iff_right (a := key ≠ f.1 ∧ f = g)
        fun h => hg h.1 h.2, and_iff_right_of_imp hne]
    · next hne =>
      have hg : f = g → key ≠ f.1 := by
        rintro rfl
        exact hne
      rw [List.mem_cons, ih hrest, List.mem_cons, and_or_left, and_iff_right_of_imp hg,
        or_left_comm]

/-- Setting a field keeps the keys in order. -/
theorem pairwise_setField (h : fields.Pairwise fun f g => f.1 < g.1) :
    (setField key value fields).Pairwise fun f g => f.1 < g.1 := by
  induction fields with
  | nil => exact List.pairwise_singleton _ _
  | cons g rest ih =>
    obtain ⟨hfirst, hrest⟩ := List.pairwise_cons.mp h
    rw [setField]
    split
    · next hlt =>
      refine List.pairwise_cons.mpr ⟨List.forall_mem_cons.mpr ⟨hlt, fun f hf => ?_⟩, h⟩
      exact String.lt_trans hlt (hfirst f hf)
    split
    · next heq =>
      subst heq
      exact List.pairwise_cons.mpr ⟨hfirst, hrest⟩
    · next hnot hne =>
      refine List.pairwise_cons.mpr ⟨fun f hf => ?_, ih hrest⟩
      rcases (mem_setField_iff hrest).mp hf with rfl | ⟨-, hf⟩
      · exact Std.lt_of_le_of_ne (String.not_lt.mp hnot) (Ne.symm hne)
      · exact hfirst f hf

end Value

/-! ## The object of the members -/

theorem merges_nil : Merges [] [] :=
  ⟨.nil, fun _ => iff_of_false List.not_mem_nil not_isLast_nil⟩

/-- Setting a field is what a further member does. -/
theorem Merges.setField (h : Merges members fields) :
    Merges (members ++ [m]) (Value.setField m.1 m.2 fields) := by
  refine ⟨Value.pairwise_setField h.ascending, fun f => ?_⟩
  rw [Value.mem_setField_iff h.ascending, h.mem_iff, isLast_concat_iff]

theorem merges_foldl (members : List (String × Value)) :
    Merges members (members.foldl (fun acc f => Value.setField f.1 f.2 acc) []) := by
  induction members using List.reverseRecOn with
  | nil => exact merges_nil
  | append_singleton members m ih =>
    rw [List.foldl_append]
    exact ih.setField

/-- The fields of an object are determined by its members. -/
theorem Merges.unique {fields' : List (String × Value)} (h : Merges members fields)
    (h' : Merges members fields') : fields = fields' := by
  have hnodup : ∀ {l : List (String × Value)}, (l.Pairwise fun f g => f.1 < g.1) → l.Nodup := by
    intro l hl
    refine List.Pairwise.imp (fun {f g} hlt heq => ?_) hl
    exact String.lt_irrefl g.1 (heq ▸ hlt)
  have hperm : fields.Perm fields' :=
    (List.perm_ext_iff_of_nodup (hnodup h.ascending) (hnodup h'.ascending)).mpr
      fun f => (h.mem_iff f).trans (h'.mem_iff f).symm
  exact hperm.eq_of_pairwise (fun _ _ _ _ hlt hgt => absurd hgt (String.lt_asymm hlt))
    h.ascending h'.ascending

/-- Fields in ascending order make an object as they are. -/
theorem merges_self (h : fields.Pairwise fun f g => f.1 < g.1) : Merges fields fields := by
  refine ⟨h, fun f => ⟨fun hf => ?_, ?_⟩⟩
  · obtain ⟨before, after, rfl⟩ := List.append_of_mem hf
    refine ⟨before, after, rfl, fun g hg heq => String.lt_irrefl g.1 ?_⟩
    have hlt := (List.pairwise_cons.mp (List.pairwise_append.mp h).2.1).1 g hg
    rwa [← heq] at hlt
  · rintro ⟨before, after, rfl, -⟩
    exact List.mem_append_cons_self

/-- The object that is made of fields, whatever their order. -/
theorem Value.ofFields_eq_object_iff :
    ofFields members = object fields ↔ Merges members fields := by
  rw [ofFields, object.injEq]
  exact ⟨fun h => h ▸ merges_foldl members, (merges_foldl members).unique⟩

end MethodRoutes.Json
