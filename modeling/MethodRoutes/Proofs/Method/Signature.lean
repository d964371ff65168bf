import Mathlib.Data.List.Infix
import MethodRoutes.Proofs.Route.Faults
import MethodRoutes.Proofs.Router.Served

/-!
# What a signature tells apart

A signature puts the types of the parameters between parentheses, with commas between them. The name
of a type may have commas and brackets of its own, as in `Map<String,User>`, so the commas of a
signature do not all separate types. Those that do are the ones outside of all brackets. If brackets
come in pairs in each type, and commas only inside of them, then the types can be read back: a type
cannot go on with a comma where another one ends.

## Main definitions

* `WellBracketed` — brackets come in pairs, and commas only inside of them
* `Method.IsWellNamed` — the name and the types of a method can be read back from its signature

## Main results

* `append_inj_of_not_extended` — two splittings of one text, where neither first part goes on into
  the second
* `WellBracketed.eq_of_append_eq` — a type that is followed by a comma or by nothing
* `Method.signature_distinguishes` — methods with one signature have one name and the same types,
  and only for such methods a router is turned down for a signature that is taken
-/

namespace MethodRoutes

/-! ## Brackets -/

/-- The number of opening brackets in a text. -/
def openedBrackets (text : List Char) : Nat := text.countP fun c => c = '<' || c = '(' || c = '['

/-- The number of closing brackets in a text. -/
def closedBrackets (text : List Char) : Nat := text.countP fun c => c = '>' || c = ')' || c = ']'

/-- The name of a type in which brackets come in pairs, of whatever kind, and commas only inside of
them. -/
structure WellBracketed (typeName : String) : Prop where
  /-- The name is not empty. -/
  ne_empty : typeName ≠ ""
  /-- Nothing is closed before it has been opened. -/
  closed_le : ∀ start, start <+: typeName.toList → closedBrackets start ≤ openedBrackets start
  /-- In the end everything has been closed. -/
  closed_eq : closedBrackets typeName.toList = openedBrackets typeName.toList
  /-- At each comma there is an open bracket. -/
  comma : ∀ start, start ++ [','] <+: typeName.toList → closedBrackets start < openedBrackets start

/-- Only the starts of a name have to be looked at. -/
theorem wellBracketed_iff {typeName : String} :
    WellBracketed typeName ↔
      typeName ≠ "" ∧
      (∀ start ∈ typeName.toList.inits, closedBrackets start ≤ openedBrackets start) ∧
      closedBrackets typeName.toList = openedBrackets typeName.toList ∧
      ∀ start ∈ typeName.toList.inits, start ++ [','] ∈ typeName.toList.inits →
        closedBrackets start < openedBrackets start := by
  simp only [List.mem_inits]
  constructor
  · rintro ⟨hne, hle, heq, hcomma⟩
    exact ⟨hne, hle, heq, fun start _ => hcomma start⟩
  · rintro ⟨hne, hle, heq, hcomma⟩
    exact ⟨hne, hle, heq, fun start h => hcomma start ((List.prefix_append start [',']).trans h) h⟩

instance (typeName : String) : Decidable (WellBracketed typeName) :=
  decidable_of_iff _ wellBracketed_iff.symm

/-- Inside of a bracket of its own a type may have commas, but brackets cannot cross its end. -/
example : WellBracketed "Map<String,(User,u32)>" ∧ ¬ WellBracketed "Map<String" ∧
    ¬ WellBracketed "String,User>" := by decide +kernel

/-! ## Reading a signature back -/

/-- A text is split in two ways. If neither first part goes on with what the other one is followed
by, then both ways are the same. -/
theorem append_inj_of_not_extended {α : Type} {xs ys rest rest' : List α}
    (h : xs ++ rest = ys ++ rest')
    (hxs : ∀ a ∈ rest'.head?, ¬ ys ++ [a] <+: xs) (hys : ∀ a ∈ rest.head?, ¬ xs ++ [a] <+: ys) :
    xs = ys ∧ rest = rest' := by
  rcases List.append_eq_append_iff.mp h with ⟨more, rfl, rfl⟩ | ⟨more, rfl, rfl⟩
  · cases more with
    | nil => simp
    | cons a more => exact absurd (by simp) (hys a rfl)
  · cases more with
    | nil => simp
    | cons a more => exact absurd (by simp) (hxs a rfl)

/-- A type is followed by a comma or by nothing. Then it is known where it ends. -/
theorem WellBracketed.eq_of_append_eq {t t' : String} (ht : WellBracketed t)
    (ht' : WellBracketed t') {rest rest' : List Char} (h : t.toList ++ rest = t'.toList ++ rest')
    (hrest : ∀ c ∈ rest.head?, c = ',') (hrest' : ∀ c ∈ rest'.head?, c = ',') :
    t = t' ∧ rest = rest' := by
  -- All brackets of a type have been closed at its end, so no comma can be part of a longer one.
  have hends {t t' : String} (ht : WellBracketed t) (ht' : WellBracketed t') :
      ¬ t.toList ++ [','] <+: t'.toList := by
    intro hlonger
    have hopen := ht'.comma t.toList hlonger
    have hclosed := ht.closed_eq
    omega
  obtain ⟨htypes, hrests⟩ := append_inj_of_not_extended h
    (fun c hc => hrest' c hc ▸ hends ht' ht) (fun c hc => hrest c hc ▸ hends ht ht')
  exact ⟨String.toList_inj.mp htypes, hrests⟩

/-- Each of some types after a comma. -/
def afterCommas (types : List String) : List Char := types.flatMap fun t => ',' :: t.toList

theorem head?_afterCommas (types : List String) : ∀ c ∈ (afterCommas types).head?, c = ',' := by
  cases types with
  | nil => simp [afterCommas]
  | cons t types => simp [afterCommas]

theorem toList_intercalate_cons (t : String) (types : List String) :
    (",".intercalate (t :: types)).toList = t.toList ++ afterCommas types := by
  induction types generalizing t with
  | nil => simp [afterCommas]
  | cons t' types ih =>
    rw [String.intercalate_cons_cons, String.toList_append, String.toList_append, ih]
    simp [afterCommas]

theorem afterCommas_inj {types types' : List String} (h : ∀ t ∈ types, WellBracketed t)
    (h' : ∀ t ∈ types', WellBracketed t) (heq : afterCommas types = afterCommas types') :
    types = types' := by
  induction types generalizing types' with
  | nil => cases types' with
    | nil => rfl
    | cons t' types' => cases heq
  | cons t types ih => cases types' with
    | nil => cases heq
    | cons t' types' =>
      rw [List.forall_mem_cons] at h h'
      have hrest : t.toList ++ afterCommas types = t'.toList ++ afterCommas types' :=
        (List.cons.inj heq).2
      obtain ⟨rfl, hsame⟩ := h.1.eq_of_append_eq h'.1 hrest (head?_afterCommas types)
        (head?_afterCommas types')
      rw [ih h.2 h'.2 hsame]

/-- Types that are joined by commas can be read back. -/
theorem intercalate_inj {types types' : List String} (h : ∀ t ∈ types, WellBracketed t)
    (h' : ∀ t ∈ types', WellBracketed t) :
    ",".intercalate types = ",".intercalate types' ↔ types = types' := by
  refine ⟨fun heq => ?_, fun heq => heq ▸ rfl⟩
  -- One type more or less makes a difference, since none of them is empty.
  have hnone {t : String} (types : List String) (ht : WellBracketed t) :
      ",".intercalate (t :: types) ≠ "" := by
    intro hempty
    have hchars := toList_intercalate_cons t types
    rw [hempty] at hchars
    have hnil : t.toList = [] := (List.append_eq_nil_iff.mp hchars.symm).1
    exact ht.ne_empty (String.toList_inj.mp hnil)
  cases types with
  | nil => cases types' with
    | nil => rfl
    | cons t' types' =>
      exact absurd (heq.symm.trans String.intercalate_nil) (hnone types' (h' t' List.mem_cons_self))
  | cons t types => cases types' with
    | nil =>
      exact absurd (heq.trans String.intercalate_nil) (hnone types (h t List.mem_cons_self))
    | cons t' types' =>
      apply afterCommas_inj h h'
      have hchars := congrArg String.toList heq
      rw [toList_intercalate_cons, toList_intercalate_cons] at hchars
      exact congrArg (List.cons ',') hchars

namespace Method

/-- The name of a method ends at the first parenthesis of its signature, and the types of its
parameters can be read back. -/
structure IsWellNamed (m : Method) : Prop where
  /-- The name has no opening parenthesis. -/
  name : '(' ∉ m.name.toList
  /-- The types of the parameters are well bracketed. -/
  types : ∀ p ∈ m.parameters, WellBracketed p.typeName

theorem toList_signature (m : Method) :
    m.signature.text.toList =
      m.name.toList ++ '(' :: ((",".intercalate (m.parameters.map Parameter.typeName)).toList ++
        [')']) := by
  simp [signature]

/-- Two methods share a signature if they have the same name and the same types, and only then. -/
theorem IsWellNamed.signature_eq_iff {m m' : Method} (h : m.IsWellNamed) (h' : m'.IsWellNamed) :
    m.signature = m'.signature ↔
      m.name = m'.name ∧
        m.parameters.map Parameter.typeName = m'.parameters.map Parameter.typeName := by
  have htypes {m : Method} (h : m.IsWellNamed) :
      ∀ t ∈ m.parameters.map Parameter.typeName, WellBracketed t := by
    simpa using h.types
  constructor
  · intro heq
    have hchars := congrArg (fun s => s.text.toList) heq
    simp only [toList_signature] at hchars
    -- A name does not go on with a parenthesis.
    have hends {m m' : Method} (h : m'.IsWellNamed) : ¬ m.name.toList ++ ['('] <+: m'.name.toList :=
      fun hlonger => h.name (hlonger.subset (by simp))
    obtain ⟨hname, hrest⟩ := append_inj_of_not_extended hchars
      (fun c hc => Option.some.inj hc ▸ hends h) (fun c hc => Option.some.inj hc ▸ hends h')
    refine ⟨String.toList_inj.mp hname, (intercalate_inj (htypes h) (htypes h')).mp ?_⟩
    exact String.toList_inj.mp (List.append_cancel_right (List.cons.inj hrest).2)
  · rintro ⟨hname, hsame⟩
    rw [signature, signature, hname, hsame]

/-- A router is turned down for a signature that is taken only because of an earlier method that
has it. -/
theorem exists_earlier_of_build_eq_duplicate {plan : Plan} {s : Signature}
    (h : plan.build = .error (.duplicate s)) :
    ∃ before m after, plan.methods = before ++ m :: after ∧ m.signature = s ∧
      ∃ m' ∈ before, m'.signature = s := by
  rw [Plan.build_eq_error_iff, Router.foldlM_addMethod_eq_error_iff] at h
  obtain ⟨before, m, after, hsplit, -, hcompile | ⟨-, htaken, hsignature⟩⟩ := h
  · -- A compilation looks at one method only.
    cases Route.compile_eq_error_iff.mp hcompile
  · cases hsignature
    exact ⟨before, m, after, hsplit, rfl, List.mem_map.mp htaken⟩

/-- What a signature tells apart. Methods whose names have no parenthesis and whose types are well
bracketed have one signature exactly if they have one name and the same types in the same order. So
among such methods, a signature is taken only by an earlier method with the same name and the same
types. -/
theorem signature_distinguishes :
    (∀ m m' : Method, m.IsWellNamed → m'.IsWellNamed →
      (m.signature = m'.signature ↔
        m.name = m'.name ∧
          m.parameters.map Parameter.typeName = m'.parameters.map Parameter.typeName)) ∧
    ∀ (plan : Plan) (s : Signature), (∀ m ∈ plan.methods, m.IsWellNamed) →
      plan.build = .error (.duplicate s) →
      ∃ before m after, plan.methods = before ++ m :: after ∧ m.signature = s ∧
        ∃ m' ∈ before, m'.signature = s ∧ m'.name = m.name ∧
          m'.parameters.map Parameter.typeName = m.parameters.map Parameter.typeName := by
  refine ⟨fun m m' h h' => h.signature_eq_iff h', fun plan s hnamed hbuild => ?_⟩
  obtain ⟨before, m, after, hsplit, hm, m', hmem, hm'⟩ :=
    exists_earlier_of_build_eq_duplicate hbuild
  have hsame : m'.IsWellNamed ∧ m.IsWellNamed :=
    ⟨hnamed m' (by simp [hsplit, hmem]), hnamed m (by simp [hsplit])⟩
  exact ⟨before, m, after, hsplit, hm, m', hmem, hm',
    (hsame.1.signature_eq_iff hsame.2).mp (hm'.trans hm.symm)⟩

namespace Sample

/-- Three methods of one name. The types of the first two differ in their brackets only, and those
of the first and the last do not differ. -/
def generics : List Method :=
  [⟨"find", [.ofType "by" "Map<String,User>"], none, "/", .plain, .unit⟩,
    ⟨"find", [.ofType "by" "Map<String>", .ofType "user" "User"], none, "/", .plain, .unit⟩,
    ⟨"find", [.ofType "key" "Map<String,User>"], none, "/all", .plain, .unit⟩]

theorem isWellNamed_of_mem_generics : ∀ m ∈ generics, m.IsWellNamed := by
  have hnames : ∀ m ∈ generics, '(' ∉ m.name.toList := by decide
  have htypes : ∀ m ∈ generics, ∀ p ∈ m.parameters, WellBracketed p.typeName := by decide +kernel
  exact fun m hm => ⟨hnames m hm, htypes m hm⟩

end Sample

/-- A comma that moves out of its bracket makes another overload. Only the method with the types of
the first one cannot be added. -/
theorem signature_distinguishes_sample :
    ∃ m₁ m₂ m₃, Sample.generics = [m₁, m₂, m₃] ∧ m₁.signature ≠ m₂.signature ∧
      (Plan.mk .empty Sample.generics).build = .error (.duplicate m₃.signature) ∧
      ∃ before m after, Sample.generics = before ++ m :: after ∧ m.signature = m₃.signature ∧
        ∃ m' ∈ before, m'.signature = m₃.signature ∧ m'.name = m.name ∧
          m'.parameters.map Parameter.typeName = m.parameters.map Parameter.typeName := by
  obtain ⟨hiff, hduplicate⟩ := signature_distinguishes
  have hbuild : (Plan.mk .empty Sample.generics).build =
      .error (.duplicate ⟨"find(Map<String,User>)"⟩) := rfl
  refine ⟨_, _, _, rfl, ?_, hbuild, hduplicate _ _ Sample.isWellNamed_of_mem_generics hbuild⟩
  rw [Ne, hiff _ _ (Sample.isWellNamed_of_mem_generics _ (by simp [Sample.generics]))
    (Sample.isWellNamed_of_mem_generics _ (by simp [Sample.generics]))]
  decide

end Method

end MethodRoutes
