import MethodRoutes.Proofs.Destination.Joined
import MethodRoutes.Proofs.Route.Strict

/-!
# Destinations written piece by piece

Whoever writes a destination thinks of it as pieces: some text, the argument at a position,
perhaps with a label, the answer of an accessor. This file writes such pieces as one text and
follows it through the parser, the compiler and a call. What comes out is the concatenation of what
the pieces stand for, in order, whatever stands next to what.

The text of the pieces is read like the canonical text of their segments, because a label says
nothing. What the parser makes of it differs from the segments in two ways, neither of which
matters to a call: a literal without characters has no entry, and neighbouring literals become one.

## Main definitions

* `Piece`, `Piece.write`, `Destination.ofPieces` — pieces, and the text that they are written as
* `Piece.Usable` — the conditions under which a piece may be used with a method
* `Piece.text` — what a piece stands for in a call
* `Destination.compact` — a destination without empty literals and neighbouring literals

## Main results

* `Destination.scan_ofPieces` — labels do not matter
* `Destination.parse_ofPieces` — the segments of a text that was written piece by piece
* `Route.url_of_pieces` — from the text to the URL of every call
-/

namespace MethodRoutes

open Json (Value)

/-- A piece of a destination, as its author thinks of it. -/
inductive Piece where
  /-- Some text, which may be empty. -/
  | literal (text : String)
  /-- The argument at a position. The label stands right after the digits of the position, so it
  may well start with a blank. -/
  | parameter (index : Nat) (label : String)
  /-- The answer of an accessor. -/
  | accessor (name : String)
  deriving DecidableEq, Repr

namespace Piece

/-- The text that a piece is written as. -/
def write : Piece → List Char
  | .literal text => Segment.escape text.toList
  | .parameter index label => '{' :: ((toString index).toList ++ (label.toList ++ ['}']))
  | .accessor name => '{' :: (name.toList ++ ['(', ')', '}'])

/-- The segment that a piece is meant to be. -/
def segment : Piece → Segment
  | .literal text => .literal text
  | .parameter index _ => .parameter index
  | .accessor name => .accessor name

/-- A piece can be used with a method if it refers to a declared parameter that is not nullable or
to a registered accessor, and if neither label nor name has characters that would be read in
another way. -/
def Usable (m : Method) (b : Bindings) : Piece → Prop
  | .literal _ => True
  | .parameter index label =>
    (∃ p, m.parameters[index]? = some p ∧ p.nullable = false) ∧
      (∀ c ∈ label.toList, c ∉ ['{', '}', '\\', '(', ')']) ∧
      ∀ c ∈ label.toList.head?, c.isDigit = false
  | .accessor name =>
    (b.accessors.get? name).isSome ∧ ∀ c ∈ name.toList, c ∉ ['{', '}', '\\', '(']

/-- The text that the argument at a position has in a URL: a string is taken as it is, and of any
other value its JSON text. -/
def argumentText (args : List Value) (index : Nat) : String :=
  match args[index]? with
  | some (.string text) => text
  | some v => v.render
  | none => ""

/-- The text that a piece stands for: the literal text, the text of an argument, or the next
answer of an accessor. -/
def text (b : Bindings) (args : List Value) : Piece → StateM Invocations String
  | .literal text => pure text
  | .parameter index _ => pure (argumentText args index)
  | .accessor name =>
    match b.accessors.get? name with
    | some source => Accessor.invoke source name
    | none => pure ""

end Piece

namespace Destination

variable {mode : ScanMode} {run rest : List Char} {m : Method} {b : Bindings}
  {pieces : List Piece}

/-- The text of pieces that are written one after another. -/
def ofPieces (pieces : List Piece) : String := String.ofList (pieces.flatMap Piece.write)

/-- The segments that pieces are meant to be. -/
def meant (pieces : List Piece) : Destination := ⟨pieces.map Piece.segment⟩

/-! ## Reading the pieces -/

/-- Labels do not matter: the text of pieces is read like the canonical text of their segments. -/
theorem scanFrom_write (hcount : m.parameters.length ≤ Segment.indexBound)
    (h : ∀ piece ∈ pieces, piece.Usable m b) :
    scanFrom .text run (pieces.flatMap Piece.write) =
      scanFrom .text run ((meant pieces).segments.flatMap Segment.render) := by
  induction pieces generalizing run with
  | nil => rfl
  | cons piece pieces ih =>
    have hpiece : piece.Usable m b := h piece List.mem_cons_self
    have hrest : ∀ piece ∈ pieces, piece.Usable m b :=
      fun piece hmem => h piece (List.mem_cons_of_mem _ hmem)
    have hsegments : (meant (piece :: pieces)).segments =
        piece.segment :: (meant pieces).segments := rfl
    rw [hsegments, List.flatMap_cons, List.flatMap_cons]
    cases piece with
    | literal text =>
      rw [Piece.write, Piece.segment, Segment.render, scanFrom_escape, scanFrom_escape, ih hrest]
    | parameter index label =>
      obtain ⟨⟨p, hp, -⟩, hplain, hfirst⟩ := hpiece
      have hindex : index < Segment.indexBound :=
        Nat.lt_of_lt_of_le (List.getElem?_eq_some_iff.mp hp).1 hcount
      have hlabel : ∀ c ∈ label.toList, Segment.needsEscape c = false ∧ c ≠ '(' ∧ c ≠ ')' := by
        intro c hc
        have hplain := hplain c hc
        simp only [List.mem_cons, List.not_mem_nil, or_false, not_or] at hplain
        simp [Segment.needsEscape, hplain]
      have hwrite : (Piece.parameter index label).write ++ pieces.flatMap Piece.write =
          '{' :: ((toString index).toList ++
            (label.toList ++ '}' :: pieces.flatMap Piece.write)) := by
        simp [Piece.write]
      rw [hwrite, scanFrom_labelled hindex hlabel hfirst, Piece.segment, scanFrom_parameter hindex,
        ih hrest]
    | accessor name =>
      obtain ⟨-, hname⟩ := hpiece
      have hplain : ∀ c ∈ name.toList, Segment.isNameChar c = true :=
        fun c hc => isNameChar_iff.mpr (hname c hc)
      have hwrite : (Piece.accessor name).write = Segment.render (.accessor name) := rfl
      rw [hwrite, Piece.segment, scanFrom_accessor_of_isNameChar hplain,
        scanFrom_accessor_of_isNameChar hplain, ih hrest]

theorem scan_ofPieces (hcount : m.parameters.length ≤ Segment.indexBound)
    (h : ∀ piece ∈ pieces, piece.Usable m b) :
    scan (ofPieces pieces) = scan (meant pieces).render := by
  rw [scan, scan, ofPieces, render, String.toList_ofList, String.toList_ofList,
    scanFrom_write hcount h]

/-! ## Literals that leave no trace -/

/-- The destination without literals that have no characters, and with each run of neighbouring
literals joined into one. -/
def compact (d : Destination) : Destination := joined ⟨d.segments.filter (· ≠ .literal "")⟩

/-- Whatever an empty literal adds nothing to, and neighbouring literals have in common with the
joined one, is the same for the compact destination. -/
theorem view_compact {α : Type} (view : List Segment → α)
    (cons : ∀ s {segments segments'}, view segments = view segments' →
      view (s :: segments) = view (s :: segments'))
    (empty : ∀ segments, view (.literal "" :: segments) = view segments)
    (literals : ∀ a b rest, view (.literal (a ++ b) :: rest) =
      view (.literal a :: .literal b :: rest)) (d : Destination) :
    view d.compact.segments = view d.segments := by
  have hfilter : ∀ segments : List Segment,
      view (segments.filter (· ≠ .literal "")) = view segments := by
    intro segments
    induction segments with
    | nil => rfl
    | cons s segments ih =>
      by_cases hs : s = .literal ""
      · rw [List.filter_cons_of_neg (by simpa using hs), ih, hs, empty]
      · rw [List.filter_cons_of_pos (by simpa using hs)]
        exact cons s ih
  exact (foldr_consJoined view cons literals _).trans (hfilter d.segments)

theorem render_compact (d : Destination) : d.compact.render = d.render := by
  have hchars : d.compact.segments.flatMap Segment.render = d.segments.flatMap Segment.render :=
    view_compact (List.flatMap Segment.render) (fun s _ _ h => by simp [h])
      (fun segments => by simp [Segment.render, Segment.escape])
      (fun a b rest => by simp [Segment.render, Segment.escape]) d
  rw [render, hchars, render]

theorem parameters_compact (d : Destination) : d.compact.parameters = d.parameters :=
  view_compact (List.filterMap Segment.parameter?)
    (fun s _ _ h => by simp [List.filterMap_cons, h]) (fun _ => rfl) (fun _ _ _ => rfl) d

theorem accessors_compact (d : Destination) : d.compact.accessors = d.accessors :=
  view_compact (List.filterMap Segment.accessor?)
    (fun s _ _ h => by simp [List.filterMap_cons, h]) (fun _ => rfl) (fun _ _ _ => rfl) d

/-- A compact destination is canonical if the names of its accessors are. -/
theorem isCanonical_compact {d : Destination}
    (hname : ∀ name ∈ d.accessors, ∀ c ∈ name.toList, Segment.isNameChar c = true) :
    d.compact.IsCanonical := by
  refine isCanonical_joined ?_ fun name hmem => hname name ?_
  · simp
  · rw [mem_accessors_iff] at hmem ⊢
    exact (List.mem_filter.mp hmem).1

theorem mem_parameters_meant {index : Nat} :
    index ∈ (meant pieces).parameters ↔ ∃ label, .parameter index label ∈ pieces := by
  rw [mem_parameters_iff, meant, List.mem_map]
  constructor
  · rintro ⟨piece, hmem, hsegment⟩
    cases piece with
    | parameter i label =>
      cases hsegment
      exact ⟨label, hmem⟩
    | literal text => cases hsegment
    | accessor name => cases hsegment
  · rintro ⟨label, hmem⟩
    exact ⟨_, hmem, rfl⟩

theorem mem_accessors_meant {name : String} :
    name ∈ (meant pieces).accessors ↔ .accessor name ∈ pieces := by
  rw [mem_accessors_iff, meant, List.mem_map]
  constructor
  · rintro ⟨piece, hmem, hsegment⟩
    cases piece with
    | accessor n =>
      cases hsegment
      exact hmem
    | literal text => cases hsegment
    | parameter i label => cases hsegment
  · exact fun hmem => ⟨_, hmem, rfl⟩

/-- A text that is written piece by piece is accepted, and read as the segments of the pieces but
for literals that leave no trace. -/
theorem parse_ofPieces (hcount : m.parameters.length ≤ Segment.indexBound)
    (h : ∀ piece ∈ pieces, piece.Usable m b) :
    parse (ofPieces pieces) = .ok (meant pieces).compact := by
  have hbounded : ∀ index ∈ (meant pieces).compact.parameters, index < Segment.indexBound := by
    intro index hindex
    rw [parameters_compact, mem_parameters_meant] at hindex
    obtain ⟨label, hmem⟩ := hindex
    obtain ⟨⟨p, hp, -⟩, -⟩ := h _ hmem
    exact Nat.lt_of_lt_of_le (List.getElem?_eq_some_iff.mp hp).1 hcount
  have hcanonical : (meant pieces).compact.IsCanonical := by
    refine isCanonical_compact fun name hname c hc => ?_
    exact isNameChar_iff.mpr ((h _ (mem_accessors_meant.mp hname)).2 c hc)
  have hread := parse_render_of_isCanonical hbounded hcanonical
  rw [parse_eq_ok_iff, render_compact, ← scan_ofPieces hcount h] at hread
  exact parse_eq_ok_iff.mpr hread

end Destination

/-! ## What the pieces stand for -/

/-- Where a piece refers to an argument, there is one, if there are as many as parameters. -/
theorem Piece.Usable.exists_argument {m : Method} {b : Bindings} {index : Nat} {label : String}
    {args : List Value} (h : (Piece.parameter index label).Usable m b)
    (hlength : args.length = m.parameters.length) (hnull : args[index]? ≠ some .null) :
    ∃ v, args[index]? = some v ∧ v ≠ .null := by
  obtain ⟨⟨p, hp, -⟩, -⟩ := h
  have hlt : index < args.length := hlength ▸ (List.getElem?_eq_some_iff.mp hp).1
  have hsome : args[index]? = some args[index] := List.getElem?_eq_getElem hlt
  exact ⟨args[index], hsome, fun heq => hnull (heq ▸ hsome)⟩

namespace Call

/-- A call takes the text of an argument from the value at its position. -/
theorem textOf_argument {args : List Value} {index : Nat} {v : Value} (h : args[index]? = some v) :
    textOf (argument args index) = Piece.argumentText args index := by
  rw [argument, Piece.argumentText, h, Option.getD_some]
  cases v <;> rfl

/-- Literals that leave no trace in a compact destination leave none in a URL. -/
theorem join_resolveAll_compact (call : Call) (d : Destination) :
    String.join <$> call.resolveAll d.compact.segments =
      String.join <$> call.resolveAll d.segments := by
  refine Destination.view_compact (fun segments => String.join <$> call.resolveAll segments)
    (fun s segments segments' h => ?_) (fun segments => ?_) (fun a b rest => ?_) d
  · simp only [join_resolveAll_cons, h]
  · simp only [join_resolveAll_cons, resolve, pure_bind, String.empty_append, bind_pure]
  · simp only [join_resolveAll_cons, resolve, pure_bind, bind_assoc, String.append_assoc]

/-- Segments are resolved to what their pieces stand for, if each of them is. -/
theorem resolveAll_map_segment {call : Call} {b : Bindings} {pieces : List Piece}
    (h : ∀ piece ∈ pieces, call.resolve piece.segment = piece.text b call.args) :
    call.resolveAll (pieces.map Piece.segment) = pieces.mapM (Piece.text b call.args) := by
  induction pieces with
  | nil => rfl
  | cons piece pieces ih =>
    have hrest := ih fun piece hmem => h piece (List.mem_cons_of_mem _ hmem)
    rw [resolveAll] at hrest ⊢
    rw [List.map_cons, List.mapM_cons, List.mapM_cons, h piece List.mem_cons_self, hrest]

end Call

namespace Route

/-- A method whose destination is written piece by piece compiles, if each piece can be used with
it and at most one parameter is the body. With every list of arguments of the right length, among
which those that a piece refers to are not absent, its URL is the concatenation of the texts that
the pieces stand for, in order. The parameters of a method can be counted by machine words. -/
theorem url_of_pieces {m : Method} {b : Bindings} {pieces : List Piece}
    (hdestination : m.destination = Destination.ofPieces pieces)
    (husable : ∀ piece ∈ pieces, piece.Usable m b)
    (hcount : m.parameters.length ≤ Segment.indexBound)
    (hbody : m.parameters.countP (·.body) ≤ 1) :
    ∃ r, compile m b = .ok r ∧
      ∀ args : List Value, args.length = m.parameters.length →
        (∀ index label, .parameter index label ∈ pieces → args[index]? ≠ some .null) →
        ∃ call, r.call args = .ok call ∧
          call.url = String.join <$> pieces.mapM (Piece.text b args) := by
  have hparse : Destination.parse m.destination = .ok (Destination.meant pieces).compact := by
    rw [hdestination]
    exact Destination.parse_ofPieces hcount husable
  obtain ⟨r, hr⟩ : ∃ r, compile m b = .ok r := by
    refine exists_compile hparse (fun index hindex => ?_) (fun name hname => ?_) hbody
    · rw [Destination.parameters_compact, Destination.mem_parameters_meant] at hindex
      obtain ⟨label, hmem⟩ := hindex
      exact (husable _ hmem).1
    · rw [Destination.accessors_compact, Destination.mem_accessors_meant] at hname
      exact (husable _ hname).1
  have hcompiled := isCompiled_of_compile hr
  have hsegments : r.destination = (Destination.meant pieces).compact :=
    Except.ok.inj (hcompiled.destination.symm.trans hparse)
  refine ⟨r, hr, fun args hlength hnull => ?_⟩
  have hargs : ∀ index label, .parameter index label ∈ pieces →
      ∃ v, args[index]? = some v ∧ v ≠ .null :=
    fun index label hmem => (husable _ hmem).exists_argument hlength (hnull index label hmem)
  refine ⟨⟨r, args⟩, ?_, ?_⟩
  · refine call_eq_ok_iff.mpr ⟨rfl, ?_, fun index hindex => ?_⟩
    · rw [hcompiled.parameters]
      exact hlength
    · rw [hsegments, Destination.parameters_compact, Destination.mem_parameters_meant] at hindex
      obtain ⟨label, hmem⟩ := hindex
      obtain ⟨v, hv, hne⟩ := hargs index label hmem
      rw [argument, hv, Option.getD_some]
      exact Value.isNull_eq_false hne
  · have hresolve : ∀ piece ∈ pieces,
        (Call.mk r args).resolve piece.segment = piece.text b args := by
      intro piece hmem
      cases piece with
      | literal text => rfl
      | parameter index label =>
        obtain ⟨v, hv, -⟩ := hargs index label hmem
        exact congrArg pure (Call.textOf_argument hv)
      | accessor name =>
        have hname : name ∈ r.destination.accessors := by
          rw [hsegments, Destination.accessors_compact]
          exact Destination.mem_accessors_meant.mpr hmem
        rw [Piece.segment, Call.resolve, hcompiled.accessors, if_pos hname]
        rfl
    calc (Call.mk r args).url
        = String.join <$> (Call.mk r args).resolveAll r.destination.segments :=
          (map_eq_pure_bind _ _).symm
      _ = String.join <$> (Call.mk r args).resolveAll (pieces.map Piece.segment) := by
          rw [hsegments, Call.join_resolveAll_compact]
          rfl
      _ = String.join <$> pieces.mapM (Piece.text b args) := by
          rw [Call.resolveAll_map_segment hresolve]

/-- Braces and a backslash next to references, a label, a position that is used twice, arguments of
every kind, a name with a closing parenthesis and one without characters. -/
theorem url_of_pieces_sample :
    let pieces : List Piece := [.literal "", .literal "/\x7b", .accessor "a)", .literal "\\",
      .literal "\x7d", .parameter 0 " id", .parameter 0 "", .literal "", .parameter 1 " n",
      .literal "/", .parameter 2 "", .literal "/", .parameter 3 " list", .parameter 4 "",
      .accessor ""]
    let m : Method := ⟨"find", [.text "id", .ofType "n" "Number", .ofType "flag" "Flag",
      .ofType "list" "List", .ofType "user" "User", (Parameter.ofType "tags" "Tags").asBody], none,
      Destination.ofPieces pieces, .plain, .unit⟩
    let b := (Bindings.empty.withAccessor "a)" (.constant "A")).withAccessor "" (.constant "B")
    let args : List Value := [.string "7\"", .int (-8), .bool true, .array [.null, .string "7\""],
      .object [("k", .number (.float (.ofBits 0x3FF8000000000000)))], .null]
    m.destination = "/\\\x7b\x7ba)()\x7d\\\\\\\x7d\x7b0 id\x7d\x7b0\x7d\x7b1 n\x7d/\x7b2\x7d/" ++
        "\x7b3 list\x7d\x7b4\x7d\x7b()\x7d" ∧
      ∃ r call, compile m b = .ok r ∧ r.call args = .ok call ∧
        (call.url .none).1 =
          "/\x7bA\\\x7d7\"7\"-8/true/[null,\"7\\\"\"]\x7b\"k\":1.5\x7dB" := by
  intro pieces m b args
  refine ⟨rfl, ?_⟩
  have husable : ∀ piece ∈ pieces, piece.Usable m b := by
    simp [pieces, m, b, Piece.Usable, Bindings.withAccessor, Parameter.text, Parameter.ofType]
  obtain ⟨r, hr, hcalls⟩ := url_of_pieces rfl husable (by decide) (by decide)
  have hnull : ∀ index label, .parameter index label ∈ pieces → args[index]? ≠ some .null := by
    intro index label hmem
    simp only [pieces, List.mem_cons, Piece.parameter.injEq, reduceCtorEq, List.not_mem_nil,
      false_or, or_false] at hmem
    rcases hmem with ⟨rfl, -⟩ | ⟨rfl, -⟩ | ⟨rfl, -⟩ | ⟨rfl, -⟩ | ⟨rfl, -⟩ | ⟨rfl, -⟩
    all_goals rintro ⟨⟩
  obtain ⟨call, hcall, hurl⟩ := hcalls args rfl hnull
  refine ⟨r, call, hr, hcall, ?_⟩
  rw [hurl]
  rfl

end Route

end MethodRoutes
