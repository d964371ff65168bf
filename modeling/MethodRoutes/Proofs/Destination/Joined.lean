import MethodRoutes.Proofs.Destination.RoundTrip
import MethodRoutes.Route.Call

/-!
# Reading the text of an accepted destination

A text such as `a{}b` is read as two literals side by side, and its canonical text `ab` as
one. What is left of a destination after rendering it and reading the result is therefore the
destination with its neighbouring literals joined, which stands for the same text in every call.

This holds unless an accessor's name has a brace or a backslash. A text can give an accessor such
a name by escaping the character, but the canonical text does not escape names.

## Main definitions

* `Destination.joined` — the destination with each run of neighbouring literals as one literal

## Main results

* `Destination.render_joined` — joining does not change the canonical text
* `Call.url_joined` — joining does not change what a call resolves to
* `Destination.parse_render_eq_ok_joined_iff` — when the canonical text of an accepted destination
  is read as the destination, up to joining
* `Destination.parse_render_brace_in_name` — an accepted destination whose text is not accepted
-/

namespace MethodRoutes

namespace Destination

/-- A segment in front of others; a literal is joined with a literal that follows it. -/
def consJoined : Segment → List Segment → List Segment
  | .literal s, .literal t :: segments => .literal (s ++ t) :: segments
  | s, segments => s :: segments

/-- The destination with each run of neighbouring literals joined into one. -/
def joined (d : Destination) : Destination := ⟨d.segments.foldr consJoined []⟩

/-- Either a segment is put in front of others, or both it and the first of these are literals. -/
theorem consJoined_cases (s : Segment) (segments : List Segment) :
    (consJoined s segments = s :: segments ∧
      (s.isLiteral → ∀ t ∈ segments.head?, t.isLiteral = false)) ∨
    ∃ a b rest, s = .literal a ∧ segments = .literal b :: rest ∧
      consJoined s segments = .literal (a ++ b) :: rest := by
  cases s with
  | literal a =>
    cases segments with
    | nil => exact .inl ⟨rfl, by simp⟩
    | cons t rest =>
      cases t with
      | literal b => exact .inr ⟨a, b, rest, rfl, rfl, rfl⟩
      | parameter index => exact .inl ⟨rfl, by simp [Segment.isLiteral]⟩
      | accessor name => exact .inl ⟨rfl, by simp [Segment.isLiteral]⟩
  | parameter index => exact .inl ⟨rfl, by simp [Segment.isLiteral]⟩
  | accessor name => exact .inl ⟨rfl, by simp [Segment.isLiteral]⟩

/-- Joining keeps whatever a pair of neighbouring literals has in common with the joined one. -/
theorem foldr_consJoined {α : Type} (view : List Segment → α)
    (cons : ∀ s {segments segments'}, view segments = view segments' →
      view (s :: segments) = view (s :: segments'))
    (literals : ∀ a b rest, view (.literal (a ++ b) :: rest) =
      view (.literal a :: .literal b :: rest)) (segments : List Segment) :
    view (segments.foldr consJoined []) = view segments := by
  induction segments with
  | nil => rfl
  | cons s segments ih =>
    rw [List.foldr_cons]
    rcases consJoined_cases s (segments.foldr consJoined []) with
      ⟨heq, -⟩ | ⟨a, b, rest, rfl, hrest, heq⟩
    · rw [heq]
      exact cons s ih
    · rw [heq, literals, ← hrest]
      exact cons _ ih

/-- Joining neighbouring literals does not change the canonical text. -/
theorem render_joined (d : Destination) : d.joined.render = d.render := by
  have hchars : (d.segments.foldr consJoined []).flatMap Segment.render =
      d.segments.flatMap Segment.render :=
    foldr_consJoined (List.flatMap Segment.render) (fun s _ _ h => by simp [h])
      (fun a b rest => by simp [Segment.render, Segment.escape]) d.segments
  rw [render, joined, hchars, render]

theorem accessors_joined (d : Destination) : d.joined.accessors = d.accessors :=
  foldr_consJoined (List.filterMap Segment.accessor?)
    (fun s _ _ h => by simp [List.filterMap_cons, h]) (fun _ _ _ => rfl) d.segments

theorem parameters_joined (d : Destination) : d.joined.parameters = d.parameters :=
  foldr_consJoined (List.filterMap Segment.parameter?)
    (fun s _ _ h => by simp [List.filterMap_cons, h]) (fun _ _ _ => rfl) d.segments

theorem isCanonical_consJoined {s : Segment} {segments : List Segment}
    (h : IsCanonical ⟨segments⟩) (hne : s ≠ .literal "")
    (hname : ∀ name, s = .accessor name → ∀ c ∈ name.toList, Segment.isNameChar c = true) :
    IsCanonical ⟨consJoined s segments⟩ := by
  rcases consJoined_cases s segments with ⟨heq, hhead⟩ | ⟨a, b, rest, rfl, rfl, heq⟩
  · rw [heq]
    cases s with
    | literal text =>
      exact isCanonical_literal_cons.mpr
        ⟨fun htext => hne (congrArg Segment.literal htext), hhead rfl, h⟩
    | parameter index => exact isCanonical_parameter_cons.mpr h
    | accessor name => exact isCanonical_accessor_cons.mpr ⟨hname name rfl, h⟩
  · obtain ⟨-, hhead, canonical⟩ := isCanonical_literal_cons.mp h
    rw [heq]
    refine isCanonical_literal_cons.mpr ⟨fun hab => hne ?_, hhead, canonical⟩
    rw [String.append_eq_empty_iff] at hab
    rw [hab.1]

/-- Joining makes a destination canonical, if only neighbouring literals kept it from that. -/
theorem isCanonical_joined {d : Destination} (hne : .literal "" ∉ d.segments)
    (hname : ∀ name ∈ d.accessors, ∀ c ∈ name.toList, Segment.isNameChar c = true) :
    d.joined.IsCanonical := by
  obtain ⟨segments⟩ := d
  induction segments with
  | nil => exact isCanonical_nil
  | cons s segments ih =>
    have hrest : (joined ⟨segments⟩).IsCanonical := by
      refine ih (fun hs => hne (List.mem_cons_of_mem s hs)) fun name hs => hname name ?_
      exact mem_accessors_iff.mpr (List.mem_cons_of_mem s (mem_accessors_iff.mp hs))
    refine isCanonical_consJoined hrest (fun heq => hne (heq ▸ List.mem_cons_self))
      fun name heq => hname name ?_
    exact mem_accessors_iff.mpr (heq ▸ List.mem_cons_self)

end Destination

/-! ## What a joined destination stands for -/

namespace Call

/-- The text of segments is the text of the first one with that of the others. -/
theorem join_resolveAll_cons (call : Call) (s : Segment) (segments : List Segment) :
    String.join <$> call.resolveAll (s :: segments) = do
      let first ← call.resolve s
      let others ← String.join <$> call.resolveAll segments
      return first ++ others := by
  simp only [resolveAll, List.mapM_cons, map_eq_pure_bind, bind_assoc, pure_bind,
    String.join_cons]

/-- Joining neighbouring literals changes neither the text nor what is invoked for it. -/
theorem join_resolveAll_joined (call : Call) (d : Destination) :
    String.join <$> call.resolveAll d.joined.segments =
      String.join <$> call.resolveAll d.segments := by
  refine Destination.foldr_consJoined (fun segments => String.join <$> call.resolveAll segments)
    (fun s segments segments' h => ?_) (fun a b rest => ?_) d.segments
  · simp only [join_resolveAll_cons, h]
  · simp only [join_resolveAll_cons, resolve, pure_bind, bind_assoc, String.append_assoc]

/-- A route stands for the same text in every call when its destination is joined. -/
theorem url_joined (r : Route) (d : Destination) (args : List Json.Value) :
    (Call.mk { r with destination := d.joined } args).url =
      (Call.mk { r with destination := d } args).url := by
  have hresolve : (Call.mk { r with destination := d.joined } args).resolve =
      (Call.mk { r with destination := d } args).resolve := by
    funext s
    cases s <;> rfl
  calc (Call.mk { r with destination := d.joined } args).url
      = String.join <$> (Call.mk { r with destination := d.joined } args).resolveAll
          d.joined.segments := (map_eq_pure_bind _ _).symm
    _ = String.join <$> (Call.mk { r with destination := d } args).resolveAll
          d.joined.segments := by rw [resolveAll, resolveAll, hresolve]
    _ = String.join <$> (Call.mk { r with destination := d } args).resolveAll d.segments :=
          join_resolveAll_joined _ d
    _ = (Call.mk { r with destination := d } args).url := map_eq_pure_bind _ _

end Call

namespace Destination

theorem isNameChar_iff_of_ne {c : Char} (h : c ≠ '(') :
    Segment.isNameChar c = true ↔ c ∉ ['{', '}', '\\'] := by
  rw [isNameChar_iff]
  simp [h]

/-- The canonical text of an accepted destination is read as the joined destination exactly when
no accessor's name has a brace or a backslash. The joined destination always stands for the same
text as the accepted one, whatever the arguments and the accessors are. -/
theorem parse_render_eq_ok_joined_iff {text : String} {d : Destination} (h : parse text = .ok d) :
    (parse d.render = .ok d.joined ↔
      ∀ name ∈ d.accessors, ∀ c ∈ name.toList, c ∉ ['{', '}', '\\']) ∧
    ∀ (r : Route) (args : List Json.Value),
      (Call.mk { r with destination := d.joined } args).url =
        (Call.mk { r with destination := d } args).url := by
  have bounded : ∀ index ∈ d.joined.parameters, index < Segment.indexBound := by
    rw [parameters_joined]
    exact lt_indexBound_of_parse h
  have hplain : ∀ name ∈ d.accessors, ∀ c ∈ name.toList,
      (Segment.isNameChar c = true ↔ c ∉ ['{', '}', '\\']) := by
    intro name hname c hc
    exact isNameChar_iff_of_ne fun heq => parenthesis_not_mem_of_parse h name hname (heq ▸ hc)
  refine ⟨?_, fun r args => Call.url_joined r d args⟩
  -- Both destinations have the same canonical text, so this is about reading back the joined one.
  rw [← render_joined]
  constructor
  · intro hparse name hname c hc
    have canonical := isCanonical_of_parse_render bounded hparse
    have hchar := canonical.names_plain name (accessors_joined d ▸ hname) c hc
    exact (hplain name hname c hc).mp (isNameChar_iff.mpr hchar)
  · intro hnames
    refine parse_render_of_isCanonical bounded
      (isCanonical_joined (empty_literal_not_mem_of_parse h) fun name hname c hc => ?_)
    exact (hplain name hname c hc).mpr (hnames name hname c hc)

/-- Two literals side by side become one, and the reference between others stays. -/
theorem parse_render_eq_ok_joined_iff_sample :
    parse "/a\x7b\x7d\\\x7bb\x7b0 id\x7d" =
      .ok ⟨[.literal "/a", .literal "\x7bb", .parameter 0]⟩ ∧
    parse (render ⟨[.literal "/a", .literal "\x7bb", .parameter 0]⟩) =
      .ok ⟨[.literal "/a\x7bb", .parameter 0]⟩ := by
  have h : parse "/a\x7b\x7d\\\x7bb\x7b0 id\x7d" =
      .ok ⟨[.literal "/a", .literal "\x7bb", .parameter 0]⟩ := rfl
  exact ⟨h, (parse_render_eq_ok_joined_iff h).1.mpr (by decide)⟩

/-- An escaped brace in the name of an accessor is accepted, but the text of the accepted
destination is not. -/
theorem parse_render_brace_in_name :
    parse "\x7ba\\\x7bb()\x7d" = .ok ⟨[.accessor "a\x7bb"]⟩ ∧
    render ⟨[.accessor "a\x7bb"]⟩ = "\x7ba\x7bb()\x7d" ∧
    parse (render ⟨[.accessor "a\x7bb"]⟩) = .error (.missingParentheses "a") :=
  ⟨rfl, rfl, rfl⟩

end Destination

end MethodRoutes
