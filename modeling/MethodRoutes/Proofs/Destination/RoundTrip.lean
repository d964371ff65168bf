import Mathlib.Data.List.Chain
import MethodRoutes.Proofs.Destination.Scan

/-!
# Destinations that are read back from their own text

The canonical text of a destination escapes its literals and nothing else. This file says for
which destinations reading that text gives the same segments again.

One direction follows the scanner through the text of one segment after another; the run that
the last literal left open is the only thing that is carried across a boundary. The other
direction shows that nothing else can happen to come out right: an entry that is read while a
special character of a name is passed is a shorter name, or no name at all.

## Main definitions

* `Destination.IsCanonical` — no empty literal, no two literals side by side, and no special
  character in the name of an accessor

## Main results

* `Destination.accessor_of_head?` — what the first entry tells about the text before a
  parenthesis
* `Destination.parse_render_eq_ok_self_iff` — the destinations that are read back are the
  canonical ones
-/

namespace MethodRoutes

/-- Whether the segment is text to copy. -/
def Segment.isLiteral : Segment → Bool
  | .literal _ => true
  | _ => false

/-- Whether a character of an accessor's name is read back as it stands. -/
def Segment.isNameChar (c : Char) : Bool := !needsEscape c && c ≠ '('

namespace Destination

/-- A destination in the form in which texts are read. -/
structure IsCanonical (d : Destination) : Prop where
  /-- No literal is empty. -/
  literal_ne_empty : .literal "" ∉ d.segments
  /-- No literal stands next to a literal. -/
  literals_apart : d.segments.IsChain fun s t => ¬ (s.isLiteral ∧ t.isLiteral)
  /-- No name has a brace, a backslash or an opening parenthesis. -/
  names_plain : ∀ name ∈ d.accessors, ∀ c ∈ name.toList, c ∉ ['{', '}', '\\', '(']

variable {mode : ScanMode} {run rest : List Char} {segments : List Segment}

theorem isNameChar_iff {c : Char} :
    Segment.isNameChar c = true ↔ c ∉ ['{', '}', '\\', '('] := by
  simp [Segment.isNameChar, Segment.needsEscape, and_assoc]

theorem isCanonical_iff {d : Destination} :
    d.IsCanonical ↔ .literal "" ∉ d.segments ∧
      (d.segments.IsChain fun s t => ¬ (s.isLiteral ∧ t.isLiteral)) ∧
      ∀ name ∈ d.accessors, ∀ c ∈ name.toList, Segment.isNameChar c = true := by
  simp only [isNameChar_iff]
  exact ⟨fun h => ⟨h.1, h.2, h.3⟩, fun h => ⟨h.1, h.2.1, h.2.2⟩⟩

instance (d : Destination) : Decidable d.IsCanonical :=
  decidable_of_iff (.literal "" ∉ d.segments ∧
      (d.segments.IsChain fun s t => ¬ (s.isLiteral ∧ t.isLiteral)) ∧
      (d.accessors.all fun name => name.toList.all Segment.isNameChar) = true)
    (by simp [isCanonical_iff])

@[simp] theorem isCanonical_nil : IsCanonical ⟨[]⟩ := by
  simp [isCanonical_iff, accessors]

theorem isCanonical_literal_cons {text : String} :
    IsCanonical ⟨.literal text :: segments⟩ ↔
      text ≠ "" ∧ (∀ s ∈ segments.head?, s.isLiteral = false) ∧ IsCanonical ⟨segments⟩ := by
  have hnames : accessors ⟨.literal text :: segments⟩ = accessors ⟨segments⟩ := rfl
  have hempty : .literal "" ∉ Segment.literal text :: segments ↔
      text ≠ "" ∧ .literal "" ∉ segments := by
    simp [eq_comm (a := "")]
  have happart : ((Segment.literal text :: segments).IsChain
        fun s t => ¬ (s.isLiteral ∧ t.isLiteral)) ↔
      (∀ s ∈ segments.head?, s.isLiteral = false) ∧
        segments.IsChain fun s t => ¬ (s.isLiteral ∧ t.isLiteral) := by
    simp [List.isChain_cons, Segment.isLiteral]
  rw [isCanonical_iff, isCanonical_iff, hnames, hempty, happart]
  tauto

theorem isCanonical_parameter_cons {index : Nat} :
    IsCanonical ⟨.parameter index :: segments⟩ ↔ IsCanonical ⟨segments⟩ := by
  simp [isCanonical_iff, accessors, List.isChain_cons, Segment.isLiteral, Segment.accessor?]

theorem isCanonical_accessor_cons {name : String} :
    IsCanonical ⟨.accessor name :: segments⟩ ↔
      (∀ c ∈ name.toList, Segment.isNameChar c = true) ∧ IsCanonical ⟨segments⟩ := by
  have hnames : accessors ⟨.accessor name :: segments⟩ = name :: accessors ⟨segments⟩ := rfl
  have hempty : .literal "" ∉ Segment.accessor name :: segments ↔ .literal "" ∉ segments := by
    simp
  have happart : ((Segment.accessor name :: segments).IsChain
        fun s t => ¬ (s.isLiteral ∧ t.isLiteral)) ↔
      segments.IsChain fun s t => ¬ (s.isLiteral ∧ t.isLiteral) := by
    simp [List.isChain_cons, Segment.isLiteral]
  rw [isCanonical_iff, isCanonical_iff, hnames, hempty, happart, List.forall_mem_cons]
  tauto

/-! ## Canonical destinations are read back -/

theorem needsEscape_of_isNameChar {c : Char} (h : Segment.isNameChar c = true) :
    Segment.needsEscape c = false := by
  simp only [Segment.isNameChar, Bool.and_eq_true, Bool.not_eq_true'] at h
  exact h.1

/-- The text of an accessor whose name has no special characters is read as that accessor. -/
theorem scanFrom_accessor_of_isNameChar {name : String}
    (h : ∀ c ∈ name.toList, Segment.isNameChar c = true) :
    scanFrom mode run (Segment.render (.accessor name) ++ rest) =
      endRun mode run ++ .ok (.accessor name) :: scanFrom .text [] rest := by
  have hname : name.toList.takeWhile (· ≠ '(') = name.toList := by
    refine List.takeWhile_eq_self_iff.mpr fun c hc => ?_
    have := h c hc
    simp only [Segment.isNameChar, Bool.and_eq_true] at this
    exact this.2
  rw [scanFrom_accessor fun c hc => needsEscape_of_isNameChar (h c hc), hname,
    String.ofList_toList]

/-- The entries of a canonical text, after a run that no literal follows. -/
theorem scanFrom_render
    (bounded : ∀ index, .parameter index ∈ segments → index < Segment.indexBound)
    (canonical : IsCanonical ⟨segments⟩)
    (apart : run ≠ [] → ∀ s ∈ segments.head?, s.isLiteral = false) :
    scanFrom .text run (segments.flatMap Segment.render) =
      endRun .text run ++ segments.map .ok := by
  induction segments generalizing run with
  | nil => simp
  | cons s segments ih =>
    have bounded' : ∀ index, .parameter index ∈ segments → index < Segment.indexBound :=
      fun index h => bounded index (List.mem_cons_of_mem s h)
    rw [List.flatMap_cons, List.map_cons]
    cases s with
    | literal text =>
      obtain ⟨hne, hhead, canonical⟩ := isCanonical_literal_cons.mp canonical
      -- The literal stays open; what follows it closes it, as no literal does.
      have hrun : run = [] := by
        by_contra h
        simpa [Segment.isLiteral] using apart h (.literal text)
      have htext : text.toList ≠ [] := by simpa using hne
      rw [Segment.render, scanFrom_escape, hrun, List.nil_append,
        ih bounded' canonical fun _ => hhead, endRun_of_ne_nil htext]
      simp
    | parameter index =>
      rw [scanFrom_parameter (bounded index List.mem_cons_self),
        ih bounded' (isCanonical_parameter_cons.mp canonical) fun h => absurd rfl h]
      simp
    | accessor name =>
      obtain ⟨hname, canonical⟩ := isCanonical_accessor_cons.mp canonical
      rw [scanFrom_accessor_of_isNameChar hname, ih bounded' canonical fun h => absurd rfl h]
      simp

/-! ## Nothing else is read back -/

/-- A literal that is open takes in the text of a literal after it. -/
theorem exists_literal_of_head? (hrun : run ≠ []) (text : List Char) :
    ∃ more, (scanFrom .text run text).head? =
      some (.ok (.literal (String.ofList (run ++ more)))) := by
  obtain ⟨mode', more, hhead, hmode⟩ := head?_scanFrom .text hrun text
  refine ⟨more, ?_⟩
  rw [hhead, hmode.mpr rfl, Segment.ofRun_text]

theorem length_takeWhile_append_le (p : Char → Bool) {s more : List Char} {c : Char}
    (hc : p c = false) : ((s ++ c :: more).takeWhile p).length ≤ s.length := by
  induction s with
  | nil => simp [hc]
  | cons d s ih =>
    rw [List.cons_append, List.takeWhile_cons]
    split
    · simpa using ih
    · simp

/-- The name of an accessor does not reach past a parenthesis of its run. -/
theorem length_le_of_parenthesis {text : List Char} {name : String}
    (h : (scanFrom mode (run ++ ['(']) text).head? = some (.ok (.accessor name))) :
    name.toList.length ≤ run.length := by
  obtain ⟨mode', more, hhead, -⟩ := head?_scanFrom mode (List.append_ne_nil_of_right_ne_nil run
    (List.cons_ne_nil '(' [])) text
  rw [h, Option.some.injEq] at hhead
  obtain ⟨-, hname⟩ := Segment.eq_invocation_of_ofRun_accessor hhead.symm
  rw [hname, List.append_assoc, List.singleton_append]
  exact length_takeWhile_append_le _ (by simp)

/-- The first entry after the end of a run is the entry of the run, if that has data. -/
theorem length_le_of_endRun {entries : List (Except SegmentError Segment)} {name : String}
    (h : (endRun mode run ++ entries).head? = some (.ok (.accessor name))) :
    (run = [] ∧ entries.head? = some (.ok (.accessor name))) ∨
      name.toList.length ≤ run.length := by
  by_cases hrun : run = []
  · subst hrun
    exact .inl ⟨rfl, by simpa using h⟩
  · rw [endRun_of_ne_nil hrun, List.singleton_append, List.head?_cons, Option.some.injEq] at h
    obtain ⟨-, hname⟩ := Segment.eq_invocation_of_ofRun_accessor h
    exact .inr (hname ▸ (List.takeWhile_prefix _).length_le)

/-- If the first entry is an accessor, its name is at most as long as the open run with the text
before some parenthesis, and a name of this length has passed no special character: each of
those either is dropped, ends the run, or ends the name. -/
theorem accessor_of_head? {text : List Char} {name : String}
    (h : (scanFrom mode run (text ++ '(' :: rest)).head? = some (.ok (.accessor name))) :
    name.toList.length ≤ run.length + text.length ∧
      (name.toList.length = run.length + text.length →
        ∀ c ∈ text, Segment.isNameChar c = true) := by
  -- Along the steps the run grows by at most the characters that are passed; only a step that
  -- keeps its character as it stands keeps the sum of both lengths.
  induction mode, run, text using scan_induction with
  | nil mode run =>
    have htakes : mode.Takes '(' := ScanMode.takes_of_not_needsEscape rfl
    rw [List.nil_append, scanFrom_data htakes] at h
    exact ⟨length_le_of_parenthesis h, by simp⟩
  | trailing mode run =>
    rw [List.singleton_append, scanFrom_escaped] at h
    have hle := length_le_of_parenthesis h
    simp only [List.length_singleton]
    omega
  | escaped mode run c text ih =>
    rw [List.cons_append, List.cons_append, scanFrom_escaped] at h
    have hle := (ih h).1
    simp only [List.length_append, List.length_cons, List.length_nil] at hle ⊢
    omega
  | opening mode run text ih =>
    rw [List.cons_append, scanFrom_opening] at h
    rw [List.length_cons]
    rcases length_le_of_endRun h with ⟨rfl, hhead⟩ | hle
    · have hle := (ih hhead).1
      simp only [List.length_nil] at hle ⊢
      omega
    · omega
  | closing mode run text hmode ih =>
    rw [List.cons_append, scanFrom_closing hmode] at h
    rw [List.length_cons]
    rcases length_le_of_endRun h with ⟨rfl, hhead⟩ | hle
    · have hle := (ih hhead).1
      simp only [List.length_nil] at hle ⊢
      omega
    · omega
  | data mode run c text hc ih =>
    rw [List.cons_append, scanFrom_data hc] at h
    rw [List.length_cons]
    by_cases hpar : c = '('
    -- The name ends here, before the text does.
    · subst hpar
      have hle := length_le_of_parenthesis h
      omega
    · obtain ⟨hle, heq⟩ := ih h
      rw [List.length_append, List.length_singleton] at hle heq
      refine ⟨by omega, fun hlength d hd => ?_⟩
      rcases List.mem_cons.mp hd with rfl | hd
      -- A closing brace is data only in a run of text, and that does not become an accessor.
      · have hclose : d ≠ '}' := by
          intro hd
          have hrun : run ++ [d] ≠ [] := by simp
          obtain ⟨more, hhead⟩ := exists_literal_of_head? hrun (text ++ '(' :: rest)
          rw [hc.2.2 hd, ScanMode.after_text, hhead] at h
          cases h
        simp [Segment.isNameChar, Segment.needsEscape, hc.1, hc.2.1, hclose, hpar]
      · exact heq (by omega) d hd

/-- If the entries of a text are the segments that were written, these are canonical, and no
literal follows the open run. -/
theorem isCanonical_of_scanFrom_render (run : List Char)
    (bounded : ∀ index, .parameter index ∈ segments → index < Segment.indexBound)
    (h : scanFrom .text run (segments.flatMap Segment.render) =
      endRun .text run ++ segments.map .ok) :
    IsCanonical ⟨segments⟩ ∧ (run ≠ [] → ∀ s ∈ segments.head?, s.isLiteral = false) := by
  induction segments generalizing run with
  | nil => simp
  | cons s segments ih =>
    have bounded' : ∀ index, .parameter index ∈ segments → index < Segment.indexBound :=
      fun index hindex => bounded index (List.mem_cons_of_mem s hindex)
    rw [List.flatMap_cons, List.map_cons] at h
    cases s with
    | literal text =>
      rw [Segment.render, scanFrom_escape] at h
      have hne : text ≠ "" := ne_empty_of_mem_scanFrom
        (h ▸ List.mem_append_right _ List.mem_cons_self)
      have htext : text.toList ≠ [] := by simpa using hne
      -- An open run would take in the literal, and the entry of the run would be too long.
      have hrun : run = [] := by
        by_contra hrun
        have hboth : run ++ text.toList ≠ [] := by simp [hrun]
        obtain ⟨more, hhead⟩ :=
          exists_literal_of_head? hboth (segments.flatMap Segment.render)
        rw [h, endRun_of_ne_nil hrun, Segment.ofRun_text, List.singleton_append, List.head?_cons,
          Option.some.injEq, Except.ok.injEq, Segment.literal.injEq, String.ofList_inj,
          List.append_assoc, List.self_eq_append_right, List.append_eq_nil_iff] at hhead
        exact htext hhead.1
      rw [hrun, List.nil_append, endRun_nil, List.nil_append] at h
      obtain ⟨canonical, apart⟩ := ih text.toList bounded' (by
        rw [h, endRun_of_ne_nil htext]
        simp)
      exact ⟨isCanonical_literal_cons.mpr ⟨hne, apart htext, canonical⟩,
        fun hrun' => absurd hrun hrun'⟩
    | parameter index =>
      rw [scanFrom_parameter (bounded index List.mem_cons_self), List.append_cancel_left_eq,
        List.cons.injEq] at h
      exact ⟨isCanonical_parameter_cons.mpr (ih [] bounded' h.2).1,
        by simp [Segment.isLiteral]⟩
    | accessor name =>
      -- The first entry after the brace is the name again, so none of its characters was special.
      have hname : ∀ c ∈ name.toList, Segment.isNameChar c = true := by
        have hrender : Segment.render (.accessor name) ++ segments.flatMap Segment.render =
            '{' :: (name.toList ++ '(' :: ')' :: '}' :: segments.flatMap Segment.render) := by
          simp [Segment.render]
        rw [hrender, scanFrom_opening, List.append_cancel_left_eq] at h
        exact (accessor_of_head? (by rw [h, List.head?_cons])).2 (by simp)
      rw [scanFrom_accessor_of_isNameChar hname, List.append_cancel_left_eq, List.cons.injEq] at h
      exact ⟨isCanonical_accessor_cons.mpr ⟨hname, (ih [] bounded' h.2).1⟩,
        by simp [Segment.isLiteral]⟩

/-! ## The destinations that are read back -/

theorem parse_render_of_isCanonical {d : Destination}
    (bounded : ∀ index ∈ d.parameters, index < Segment.indexBound) (h : d.IsCanonical) :
    parse d.render = .ok d := by
  rw [parse_eq_ok_iff, scan, render, String.toList_ofList,
    scanFrom_render (fun index hindex => bounded index (mem_parameters_iff.mpr hindex)) h
      fun hrun => absurd rfl hrun]
  rfl

theorem isCanonical_of_parse_render {d : Destination}
    (bounded : ∀ index ∈ d.parameters, index < Segment.indexBound)
    (h : parse d.render = .ok d) : d.IsCanonical := by
  rw [parse_eq_ok_iff, scan, render, String.toList_ofList] at h
  exact (isCanonical_of_scanFrom_render []
    (fun index hindex => bounded index (mem_parameters_iff.mpr hindex)) h).1

/-- Rendering and reading are inverse on exactly the canonical destinations. -/
theorem parse_render_eq_ok_self_iff (d : Destination)
    (bounded : ∀ index ∈ d.parameters, index < Segment.indexBound) :
    parse d.render = .ok d ↔ d.IsCanonical :=
  ⟨isCanonical_of_parse_render bounded, parse_render_of_isCanonical bounded⟩

/-- The greatest position, an empty name and a closing parenthesis in a name are read back; a
brace in a name is not. -/
theorem parse_render_eq_ok_self_iff_at_bounds :
    (∀ index ∈ parameters
        ⟨[.literal "/\x7b", .parameter 0xffffffffffffffff, .accessor "", .accessor "a)"]⟩,
      index < Segment.indexBound) ∧
    parse (render
        ⟨[.literal "/\x7b", .parameter 0xffffffffffffffff, .accessor "", .accessor "a)"]⟩) =
      .ok ⟨[.literal "/\x7b", .parameter 0xffffffffffffffff, .accessor "", .accessor "a)"]⟩ ∧
    parse (render ⟨[.accessor "a\x7bb"]⟩) ≠ .ok ⟨[.accessor "a\x7bb"]⟩ := by
  refine ⟨by decide, (parse_render_eq_ok_self_iff _ (by decide)).mpr (by decide), fun h => ?_⟩
  exact absurd ((parse_render_eq_ok_self_iff _ (by decide)).mp h) (by decide)

end Destination

end MethodRoutes
