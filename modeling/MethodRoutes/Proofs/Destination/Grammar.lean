import Mathlib.Data.List.Forall2
import Mathlib.Data.Nat.Digits.Defs
import MethodRoutes.Proofs.Destination.Scan

/-!
# The grammar of destinations

The scanner takes a text apart in one pass, with a buffer and a mode that change as it goes. This
file says what it finds without following it. First the backslashes are read, which leaves
characters that have their own meaning and characters that are data. Then the text is cut into
runs, each as long as it can be: text reaches up to a brace that opens a reference, a reference up
to the next brace of either kind. At last each run that is not empty is read for itself, by rules
that look at nothing else.

The scanner gives the entries that this reading gives, on every text. The invariant that connects
the two is that the buffer holds the data of a run that has not met its end, and that the mode
tells whether this run is a reference and has had a parenthesis.

## Main definitions

* `Glyph`, `glyphs` — characters, with those that have lost their own meaning to a backslash
* `Run`, `runs` — the text cut at the braces
* `Run.Denotes` — the entry of a run, rule by rule
* `Reads` — the entries of a text

## Main results

* `Run.denotes_iff` — the rules give each run one entry
* `scanFrom_eq_flatMap_runs` — the scanner gives the entries of the runs, from every state
* `scan_iff_reads` — the scanner and the parser implement the grammar
-/

namespace MethodRoutes

namespace Destination

/-! ## The grammar -/

/-- A character of a text after the backslashes have been read. -/
structure Glyph where
  /-- The character. -/
  char : Char
  /-- Whether a backslash stood before it, so that it is data whatever it is. -/
  escaped : Bool
  deriving DecidableEq, Repr

/-- The characters of a text. A backslash takes the next character as data, and is dropped if
there is none. -/
def glyphs : List Char → List Glyph
  | [] => []
  | '\\' :: [] => []
  | '\\' :: c :: rest => ⟨c, true⟩ :: glyphs rest
  | c :: rest => ⟨c, false⟩ :: glyphs rest

/-- The character is `c` and has its own meaning. -/
def Glyph.means (g : Glyph) (c : Char) : Bool := !g.escaped && g.char = c

/-- The character ends a run: an opening brace always does, a closing one ends a reference. -/
def Glyph.ends (reference : Bool) (g : Glyph) : Bool := g.means '{' || (reference && g.means '}')

/-- A stretch of a text between two places where runs end. -/
structure Run where
  /-- Whether it belongs to a reference. -/
  reference : Bool
  /-- Its characters. -/
  glyphs : List Glyph
  deriving DecidableEq, Repr

/-- The characters of a run, all of which are data to its reading. -/
def Run.data (r : Run) : List Char := r.glyphs.map Glyph.char

/-- The run has a parenthesis with its own meaning. -/
def Run.HasParenthesis (r : Run) : Prop := ∃ g ∈ r.glyphs, g.means '(' ∨ g.means ')'

instance (r : Run) : Decidable r.HasParenthesis :=
  inferInstanceAs (Decidable (∃ g ∈ r.glyphs, g.means '(' ∨ g.means ')'))

/-- The runs of a text. After a run that an opening brace ends there is a reference, and after a
reference that a closing brace ends there is text. -/
def runs (reference : Bool) (text : List Glyph) : List Run :=
  ⟨reference, text.takeWhile fun g => !g.ends reference⟩ ::
    match _h : text.dropWhile fun g => !g.ends reference with
    | [] => []
    | g :: rest => runs (g.means '{') rest
termination_by text.length
decreasing_by
  have hle := List.length_dropWhile_le (fun g : Glyph => !g.ends reference) text
  rw [_h, List.length_cons] at hle
  exact hle

/-- The number that decimal digits denote, the most significant one first. -/
def numeral (digits : List Char) : Nat :=
  Nat.ofDigits 10 (digits.reverse.map fun c => c.toNat - '0'.toNat)

/-- The entry of a run that is not empty. -/
inductive Run.Denotes (r : Run) : Except SegmentError Segment → Prop
  /-- Text stands for itself. -/
  | literal (text : r.reference = false) :
    Denotes r (.ok (.literal (String.ofList r.data)))
  /-- A parenthesis makes a reference an invocation, which is named by what precedes the first
  opening parenthesis of its data, escaped or not. -/
  | accessor {name rest : List Char} (reference : r.reference = true)
    (parenthesis : r.HasParenthesis) (closed : ['(', ')'] <:+ r.data)
    (data : r.data = name ++ '(' :: rest) (first : '(' ∉ name) :
    Denotes r (.ok (.accessor (String.ofList name)))
  /-- An invocation has to end in `()`. -/
  | unclosed (reference : r.reference = true) (parenthesis : r.HasParenthesis)
    (unclosed : ¬ ['(', ')'] <:+ r.data) :
    Denotes r (.error (.missingParentheses (String.ofList r.data)))
  /-- All digits that a reference starts with make up the position. -/
  | parameter {digits label : List Char} (reference : r.reference = true)
    (parenthesis : ¬ r.HasParenthesis) (data : r.data = digits ++ label) (some_digit : digits ≠ [])
    (all_digits : ∀ c ∈ digits, c.isDigit = true) (rest : ∀ c ∈ label.head?, c.isDigit = false)
    (fits : numeral digits < Segment.indexBound) :
    Denotes r (.ok (.parameter (numeral digits)))
  /-- A position has to fit into a machine word. -/
  | overflow {digits label : List Char} (reference : r.reference = true)
    (parenthesis : ¬ r.HasParenthesis) (data : r.data = digits ++ label) (some_digit : digits ≠ [])
    (all_digits : ∀ c ∈ digits, c.isDigit = true) (rest : ∀ c ∈ label.head?, c.isDigit = false)
    (overflows : Segment.indexBound ≤ numeral digits) :
    Denotes r (.error (.indexOverflow (String.ofList r.data)))
  /-- A reference that starts like a name lacks the parentheses of an invocation. -/
  | named {c : Char} {rest : List Char} (reference : r.reference = true)
    (parenthesis : ¬ r.HasParenthesis) (data : r.data = c :: rest) (digit : c.isDigit = false)
    (start : Text.isAlphabetic c = true ∨ c = '_') :
    Denotes r (.error (.missingParentheses (String.ofList r.data)))
  /-- Anything else is no reference. -/
  | malformed {c : Char} {rest : List Char} (reference : r.reference = true)
    (parenthesis : ¬ r.HasParenthesis) (data : r.data = c :: rest) (digit : c.isDigit = false)
    (start : ¬ (Text.isAlphabetic c = true ∨ c = '_')) :
    Denotes r (.error (.malformedParameter (String.ofList r.data)))

/-- The entries of a text: one for each run that is not empty, in order. -/
def Reads (text : String) (entries : List (Except SegmentError Segment)) : Prop :=
  List.Forall₂ Run.Denotes ((runs false (glyphs text.toList)).filter fun r => r.data ≠ []) entries

/-! ## The entry of a run -/

/-- What the scanner's mode is when it has passed the characters of a run. -/
def Run.mode (r : Run) : ScanMode :=
  if r.reference = false then .text else if r.HasParenthesis then .invocation else .reference

@[simp] theorem Run.mode_eq_text_iff {r : Run} : r.mode = .text ↔ r.reference = false := by
  rw [mode]
  split
  · next htext => simp [htext]
  · next hreference => split <;> simp [hreference]

theorem Run.mode_eq_invocation_iff {r : Run} :
    r.mode = .invocation ↔ r.reference = true ∧ r.HasParenthesis := by
  rw [mode]
  split
  · next htext => simp [htext]
  · next hreference => split <;> simp_all

theorem Run.mode_eq_reference_iff {r : Run} :
    r.mode = .reference ↔ r.reference = true ∧ ¬ r.HasParenthesis := by
  rw [mode]
  split
  · next htext => simp [htext]
  · next hreference => split <;> simp_all

theorem numeral_eq (digits : List Char) : numeral digits = Segment.valueOfDigits digits := by
  rw [numeral, Nat.ofDigits_eq_foldr, List.foldr_map, List.foldr_reverse, Segment.valueOfDigits]
  congr 1
  funext n d
  rw [Nat.cast_id, Nat.add_comm]

theorem takeWhile_ne_parenthesis {name rest : List Char} (h : '(' ∉ name) :
    (name ++ '(' :: rest).takeWhile (· ≠ '(') = name := by
  have hname : ∀ c ∈ name, decide (c ≠ '(') = true := by
    intro c hc
    simpa using fun heq : c = '(' => h (heq ▸ hc)
  rw [List.takeWhile_append_of_pos hname]
  simp

/-- What a reference without digits at its start is read as. -/
theorem ofReference_of_not_isDigit {c : Char} {rest : List Char} (h : c.isDigit = false) :
    Segment.ofReference (c :: rest) =
      if Text.isAlphabetic c = true ∨ c = '_' then
        .error (.missingParentheses (String.ofList (c :: rest)))
      else .error (.malformedParameter (String.ofList (c :: rest))) := by
  rw [Segment.ofReference, List.takeWhile_cons, if_neg (by simp [h])]
  simp

theorem ofReference_numeral {digits label : List Char} (hne : digits ≠ [])
    (hdigits : ∀ c ∈ digits, c.isDigit = true) (hlabel : ∀ c ∈ label.head?, c.isDigit = false) :
    Segment.ofReference (digits ++ label) =
      if numeral digits < Segment.indexBound then .ok (.parameter (numeral digits))
      else .error (.indexOverflow (String.ofList (digits ++ label))) := by
  rw [numeral_eq, Segment.ofReference_digits hne hdigits hlabel]

/-- The rules give a run no other entry than the scanner does. -/
theorem Run.Denotes.eq_ofRun {r : Run} {entry : Except SegmentError Segment}
    (h : r.Denotes entry) : Segment.ofRun r.mode r.data = entry := by
  cases h with
  | literal text => rw [mode_eq_text_iff.mpr text, Segment.ofRun_text]
  | accessor reference parenthesis closed data first =>
    rw [mode_eq_invocation_iff.mpr ⟨reference, parenthesis⟩, Segment.ofRun_invocation,
      Segment.ofInvocation, if_pos (List.isSuffixOf_iff_suffix.mpr closed), data,
      takeWhile_ne_parenthesis first]
  | unclosed reference parenthesis unclosed =>
    rw [mode_eq_invocation_iff.mpr ⟨reference, parenthesis⟩, Segment.ofRun_invocation,
      Segment.ofInvocation, if_neg (by rwa [List.isSuffixOf_iff_suffix])]
  | parameter reference parenthesis data some_digit all_digits rest fits =>
    rw [mode_eq_reference_iff.mpr ⟨reference, parenthesis⟩, Segment.ofRun_reference, data,
      ofReference_numeral some_digit all_digits rest, if_pos fits]
  | overflow reference parenthesis data some_digit all_digits rest overflows =>
    rw [mode_eq_reference_iff.mpr ⟨reference, parenthesis⟩, Segment.ofRun_reference, data,
      ofReference_numeral some_digit all_digits rest, if_neg (Nat.not_lt.mpr overflows)]
  | named reference parenthesis data digit start =>
    rw [mode_eq_reference_iff.mpr ⟨reference, parenthesis⟩, Segment.ofRun_reference, data,
      ofReference_of_not_isDigit digit, if_pos start]
  | malformed reference parenthesis data digit start =>
    rw [mode_eq_reference_iff.mpr ⟨reference, parenthesis⟩, Segment.ofRun_reference, data,
      ofReference_of_not_isDigit digit, if_neg start]

/-- The rules give every run that is not empty an entry. -/
theorem Run.denotes_ofRun {r : Run} (hne : r.data ≠ []) :
    r.Denotes (Segment.ofRun r.mode r.data) := by
  cases hmode : r.mode with
  | text => exact .literal (mode_eq_text_iff.mp hmode)
  | invocation =>
    obtain ⟨reference, parenthesis⟩ := mode_eq_invocation_iff.mp hmode
    rw [Segment.ofRun_invocation, Segment.ofInvocation]
    split
    · next hclosed =>
      have closed : ['(', ')'] <:+ r.data := List.isSuffixOf_iff_suffix.mp hclosed
      have hmem : '(' ∈ r.data := closed.subset List.mem_cons_self
      obtain ⟨name, rest, data, first⟩ := List.eq_append_cons_of_mem hmem
      rw [show r.data.takeWhile (· ≠ '(') = name by rw [data, takeWhile_ne_parenthesis first]]
      exact .accessor reference parenthesis closed data first
    · next hclosed =>
      exact .unclosed reference parenthesis (by rwa [List.isSuffixOf_iff_suffix] at hclosed)
  | reference =>
    obtain ⟨reference, parenthesis⟩ := mode_eq_reference_iff.mp hmode
    rw [Segment.ofRun_reference]
    -- The run is cut behind all digits that it starts with, so no further one follows.
    have data : r.data = r.data.takeWhile Char.isDigit ++ r.data.dropWhile Char.isDigit :=
      List.takeWhile_append_dropWhile.symm
    have all_digits : ∀ c ∈ r.data.takeWhile Char.isDigit, c.isDigit = true :=
      fun c hc => List.mem_takeWhile_imp hc
    have rest : ∀ c ∈ (r.data.dropWhile Char.isDigit).head?, c.isDigit = false := by
      intro c hc
      have hhead := List.head?_dropWhile_not Char.isDigit r.data
      rw [Option.mem_def.mp hc] at hhead
      exact hhead
    by_cases some_digit : r.data.takeWhile Char.isDigit = []
    · obtain ⟨c, tail, hdata⟩ := List.exists_cons_of_ne_nil hne
      have digit : c.isDigit = false := by
        rw [some_digit, List.nil_append] at data
        refine rest c ?_
        rw [← data, hdata]
        rfl
      rw [hdata, ofReference_of_not_isDigit digit, ← hdata]
      split
      · next start => exact .named reference parenthesis hdata digit start
      · next start => exact .malformed reference parenthesis hdata digit start
    · rw [data, ofReference_numeral some_digit all_digits rest, ← data]
      split
      · next fits => exact .parameter reference parenthesis data some_digit all_digits rest fits
      · next fits =>
        exact .overflow reference parenthesis data some_digit all_digits rest (Nat.not_lt.mp fits)

theorem Run.denotes_iff {r : Run} (hne : r.data ≠ []) {entry : Except SegmentError Segment} :
    r.Denotes entry ↔ Segment.ofRun r.mode r.data = entry :=
  ⟨Run.Denotes.eq_ofRun, fun h => h ▸ denotes_ofRun hne⟩

/-! ## The runs that the scanner finds -/

variable {reference : Bool} {pending rest : List Glyph}

theorem glyphs_data {c : Char} {text : List Char} (h : c ≠ '\\') :
    glyphs (c :: text) = ⟨c, false⟩ :: glyphs text := by
  cases text <;> simp [glyphs, h]

/-- Text without an end is one run. -/
theorem runs_of_not_ends (h : ∀ g ∈ pending, g.ends reference = false) :
    runs reference pending = [⟨reference, pending⟩] := by
  have hall : ∀ g ∈ pending, (!g.ends reference) = true := fun g hg => by rw [h g hg]; rfl
  rw [runs, List.takeWhile_eq_self_iff.mpr hall]
  split
  · rfl
  · next hdrop =>
    rw [List.dropWhile_eq_nil_iff.mpr hall] at hdrop
    cases hdrop

/-- The first end cuts off a run. -/
theorem runs_append_ends {g : Glyph} (h : ∀ g ∈ pending, g.ends reference = false)
    (hg : g.ends reference = true) :
    runs reference (pending ++ g :: rest) =
      ⟨reference, pending⟩ :: runs (g.means '{') rest := by
  have hall : ∀ g ∈ pending, (!g.ends reference) = true := fun g hg => by rw [h g hg]; rfl
  rw [runs, List.takeWhile_append_of_pos hall]
  split
  · next hdrop =>
    rw [List.dropWhile_append_of_pos hall] at hdrop
    simp [hg] at hdrop
  · next hdrop =>
    rw [List.dropWhile_append_of_pos hall, List.dropWhile_cons, if_neg (by simp [hg])] at hdrop
    cases hdrop
    simp [hg]

/-- The entries of a run: none if it is empty. -/
def Run.entries (r : Run) : List (Except SegmentError Segment) := endRun r.mode r.data

theorem Run.mode_escaped (c : Char) :
    (Run.mk reference (pending ++ [⟨c, true⟩])).mode = (Run.mk reference pending).mode := by
  simp [mode, HasParenthesis, Glyph.means]

theorem Run.mode_data (c : Char) :
    (Run.mk reference (pending ++ [⟨c, false⟩])).mode =
      (Run.mk reference pending).mode.after c := by
  have hparenthesis : (Run.mk reference (pending ++ [⟨c, false⟩])).HasParenthesis ↔
      (Run.mk reference pending).HasParenthesis ∨ c = '(' ∨ c = ')' := by
    simp [HasParenthesis, Glyph.means, or_and_right, exists_or]
  cases reference with
  | false =>
    have htext : (Run.mk false pending).mode = .text := rfl
    rw [htext, ScanMode.after_text]
    rfl
  | true =>
    by_cases hc : c = '(' ∨ c = ')'
    · have hreference : (Run.mk true pending).mode ≠ .text := by simp
      rw [ScanMode.after, if_pos ⟨hreference, hc⟩]
      exact mode_eq_invocation_iff.mpr ⟨rfl, hparenthesis.mpr (.inr hc)⟩
    · rw [ScanMode.after, if_neg fun h => hc h.2, mode, mode]
      simp [hparenthesis, hc]

@[simp] theorem Run.data_append (g : Glyph) :
    (Run.mk reference (pending ++ [g])).data = (Run.mk reference pending).data ++ [g.char] := by
  simp [data]

/-- A run goes on with every character that is no end. -/
theorem not_ends_append {g : Glyph} (h : ∀ g ∈ pending, g.ends reference = false)
    (hg : g.ends reference = false) : ∀ g' ∈ pending ++ [g], g'.ends reference = false := by
  intro g' hg'
  rcases List.mem_append.mp hg' with hmem | hmem
  · exact h g' hmem
  · rw [List.mem_singleton.mp hmem]
    exact hg

theorem Glyph.ends_escaped (c : Char) : Glyph.ends reference ⟨c, true⟩ = false := by
  simp [ends, means]

theorem Glyph.ends_opening : Glyph.ends reference ⟨'{', false⟩ = true := by
  simp [ends, means]

theorem Glyph.ends_closing : Glyph.ends true ⟨'}', false⟩ = true := by
  simp [ends, means]

/-- What joins the scanner's buffer does not end the run. -/
theorem Glyph.ends_of_takes {c : Char} (hc : (Run.mk reference pending).mode.Takes c) :
    Glyph.ends reference ⟨c, false⟩ = false := by
  obtain ⟨-, hopen, hclose⟩ := hc
  cases reference with
  | false => simp [ends, means, hopen]
  | true =>
    have hne : c ≠ '}' := by
      intro heq
      simpa using hclose heq
    simp [ends, means, hopen, hne]

/-- From every state the scanner gives the entries of the runs, the first of which it has already
begun. -/
theorem scanFrom_eq_flatMap_runs (h : ∀ g ∈ pending, g.ends reference = false)
    (text : List Char) :
    scanFrom (Run.mk reference pending).mode (Run.mk reference pending).data text =
      (runs reference (pending ++ glyphs text)).flatMap Run.entries := by
  -- The scanner's steps are followed with the mode and the buffer as variables of their own.
  generalize hmode : (Run.mk reference pending).mode = mode
  generalize hrun : (Run.mk reference pending).data = run
  induction mode, run, text using scan_induction generalizing reference pending with
  | nil mode run =>
    subst hmode hrun
    rw [scanFrom_nil, glyphs, List.append_nil, runs_of_not_ends h, List.flatMap_singleton,
      Run.entries]
  | trailing mode run =>
    subst hmode hrun
    rw [scanFrom_trailing, glyphs, List.append_nil, runs_of_not_ends h, List.flatMap_singleton,
      Run.entries]
  | escaped mode run c rest ih =>
    subst hmode hrun
    rw [scanFrom_escaped, glyphs, List.append_cons pending]
    exact ih (not_ends_append h (Glyph.ends_escaped c)) (Run.mode_escaped c) (Run.data_append _)
  | opening mode run rest ih =>
    subst hmode hrun
    have hrest := @ih true [] (by simp) rfl rfl
    rw [scanFrom_opening, hrest, glyphs_data (by decide),
      runs_append_ends h Glyph.ends_opening, List.flatMap_cons]
    rfl
  | closing mode run rest hreference ih =>
    subst hmode hrun
    have hreference : reference = true := by simpa using hreference
    subst hreference
    have hrest := @ih false [] (by simp) rfl rfl
    rw [scanFrom_closing (by simp), hrest, glyphs_data (by decide),
      runs_append_ends h Glyph.ends_closing, List.flatMap_cons]
    rfl
  | data mode run c rest hc ih =>
    subst hmode hrun
    rw [scanFrom_data hc, glyphs_data hc.1, List.append_cons pending]
    exact ih (not_ends_append h (Glyph.ends_of_takes hc)) (Run.mode_data c) (Run.data_append _)

theorem scan_eq_flatMap_runs (text : String) :
    scan text = (runs false (glyphs text.toList)).flatMap Run.entries :=
  @scanFrom_eq_flatMap_runs false [] (by simp) text.toList

/-! ## The scanner implements the grammar -/

/-- One rule for each run that is not empty makes up the entries of all runs. -/
theorem forall₂_denotes_iff {rs : List Run} {entries : List (Except SegmentError Segment)} :
    List.Forall₂ Run.Denotes (rs.filter fun r => r.data ≠ []) entries ↔
      rs.flatMap Run.entries = entries := by
  induction rs generalizing entries with
  | nil => rw [List.filter_nil, List.forall₂_nil_left_iff, List.flatMap_nil, eq_comm]
  | cons r rs ih =>
    rw [List.flatMap_cons, Run.entries]
    by_cases hr : r.data = []
    · rw [List.filter_cons_of_neg (by simpa using hr), hr, endRun_nil, List.nil_append, ih]
    · rw [List.filter_cons_of_pos (by simpa using hr), endRun_of_ne_nil hr,
        List.singleton_append, List.forall₂_cons_left_iff]
      constructor
      · rintro ⟨entry, entries, hentry, hentries, rfl⟩
        rw [(Run.denotes_iff hr).mp hentry, ih.mp hentries]
      · rintro rfl
        exact ⟨_, _, (Run.denotes_iff hr).mpr rfl, ih.mpr rfl, rfl⟩

theorem reads_iff {text : String} {entries : List (Except SegmentError Segment)} :
    Reads text entries ↔ scan text = entries := by
  rw [Reads, forall₂_denotes_iff, scan_eq_flatMap_runs]

/-- The scanner gives exactly the entries that the grammar gives a text. Parsing gives their
segments if all of them are segments, and otherwise the first error among them. -/
theorem scan_iff_reads (text : String) :
    (∀ entries, scan text = entries ↔ Reads text entries) ∧
      (∀ d, parse text = .ok d ↔ Reads text (d.segments.map .ok)) ∧
      ∀ e, parse text = .error e ↔
        ∃ (before : List Segment) (after : _),
          Reads text (before.map .ok ++ .error e :: after) := by
  refine ⟨fun entries => reads_iff.symm, fun d => ?_, fun e => ?_⟩
  · rw [reads_iff, parse_eq_ok_iff]
  · simp only [reads_iff]
    exact parse_eq_error_iff

/-- An escaped parenthesis does not make a reference an invocation, but it counts where the name
and the end of an invocation are looked for. -/
example : scan "\x7b0\\(x\x7d\x7ba\\(b()\x7d\x7bc\\()" =
    [.ok (.parameter 0), .ok (.accessor "a"), .ok (.accessor "c")] := rfl

end Destination

end MethodRoutes
