import Mathlib.Data.List.TakeWhile
import MethodRoutes.Destination.Parse
import MethodRoutes.Proofs.Except

/-!
# What the scanner does with a text

The scanner looks at one character, or at a backslash with the character after it, and does one
of six things. This file states each of them once, gives the induction that follows them, and
derives how whole stretches of text are read and what kind of entries can come out.

## Main definitions

* `ScanMode.Takes`, `ScanMode.after` — which characters join the current run, and how they
  change what the run belongs to

## Main results

* `Destination.scan_induction` — induction along the steps of the scanner
* `Destination.scanFrom_escape`, `Destination.scanFrom_labelled`, `Destination.scanFrom_parameter`,
  `Destination.scanFrom_accessor` — how the canonical text of a segment is read, and a position
  with a label
* `Destination.mem_scanFrom`, `Destination.head?_scanFrom` — every entry comes from a run, and
  the first one from the run that is open
* `Destination.parse_eq_ok_iff` — a text is accepted when all its entries are segments
-/

namespace MethodRoutes

/-- The character joins the current run as data, although no backslash precedes it. -/
def ScanMode.Takes (mode : ScanMode) (c : Char) : Prop :=
  c ≠ '\\' ∧ c ≠ '{' ∧ (c = '}' → mode = .text)

/-- What a run belongs to after a character joined it without a backslash. -/
def ScanMode.after (mode : ScanMode) (c : Char) : ScanMode :=
  if mode ≠ .text ∧ (c = '(' ∨ c = ')') then .invocation else mode

theorem ScanMode.takes_of_not_needsEscape {mode : ScanMode} {c : Char}
    (h : Segment.needsEscape c = false) : mode.Takes c := by
  simp only [Segment.needsEscape, Bool.or_eq_false_iff, decide_eq_false_iff_not] at h
  exact ⟨h.2, h.1.1, fun hc => absurd hc h.1.2⟩

@[simp] theorem ScanMode.after_eq_text_iff {mode : ScanMode} {c : Char} :
    mode.after c = .text ↔ mode = .text := by
  unfold after
  split
  · next h => simp [h.1]
  · rfl

@[simp] theorem ScanMode.after_text (c : Char) : ScanMode.text.after c = .text := by simp

theorem ScanMode.foldl_after_eq_text_iff {mode : ScanMode} {s : List Char} :
    s.foldl after mode = .text ↔ mode = .text := by
  induction s generalizing mode with
  | nil => rfl
  | cons c s ih => rw [List.foldl_cons, ih, after_eq_text_iff]

theorem ScanMode.foldl_after_of_no_parenthesis {mode : ScanMode} {s : List Char}
    (h : ∀ c ∈ s, c ≠ '(' ∧ c ≠ ')') : s.foldl after mode = mode := by
  induction s with
  | nil => rfl
  | cons c s ih =>
    obtain ⟨hopen, hclose⟩ := h c List.mem_cons_self
    rw [List.foldl_cons, show mode.after c = mode by simp [after, hopen, hclose]]
    exact ih fun d hd => h d (List.mem_cons_of_mem c hd)

/-! ## What an entry can be -/

namespace Segment

@[simp] theorem ofRun_text (run : List Char) :
    ofRun .text run = .ok (.literal (String.ofList run)) := rfl

@[simp] theorem ofRun_reference (run : List Char) : ofRun .reference run = ofReference run := rfl

@[simp] theorem ofRun_invocation (run : List Char) :
    ofRun .invocation run = ofInvocation run := rfl

/-- A reference that can be read is a position that fits. -/
theorem exists_parameter_of_ofReference {run : List Char} {s : Segment}
    (h : ofReference run = .ok s) : ∃ index, index < indexBound ∧ s = .parameter index := by
  unfold ofReference at h
  split at h
  · split at h <;> cases h
  · split at h
    · next hlt =>
      cases h
      exact ⟨_, hlt, rfl⟩
    · cases h

/-- An invocation that can be read is named by what precedes its first parenthesis. -/
theorem eq_accessor_of_ofInvocation {run : List Char} {s : Segment}
    (h : ofInvocation run = .ok s) :
    s = .accessor (String.ofList (run.takeWhile (· ≠ '('))) := by
  unfold ofInvocation at h
  split at h
  · exact (Except.ok.inj h).symm
  · cases h

theorem eq_text_of_ofRun_literal {mode : ScanMode} {run : List Char} {text : String}
    (h : ofRun mode run = .ok (.literal text)) : mode = .text ∧ text = String.ofList run := by
  cases mode with
  | text => exact ⟨rfl, by simpa using h.symm⟩
  | reference =>
    obtain ⟨_, _, hs⟩ := exists_parameter_of_ofReference h
    cases hs
  | invocation => cases eq_accessor_of_ofInvocation h

theorem lt_indexBound_of_ofRun_parameter {mode : ScanMode} {run : List Char} {index : Nat}
    (h : ofRun mode run = .ok (.parameter index)) : index < indexBound := by
  cases mode with
  | text => cases h
  | reference =>
    obtain ⟨_, hlt, hs⟩ := exists_parameter_of_ofReference h
    cases hs
    exact hlt
  | invocation => cases eq_accessor_of_ofInvocation h

theorem eq_invocation_of_ofRun_accessor {mode : ScanMode} {run : List Char} {name : String}
    (h : ofRun mode run = .ok (.accessor name)) :
    mode = .invocation ∧ name.toList = run.takeWhile (· ≠ '(') := by
  cases mode with
  | text => cases h
  | reference =>
    obtain ⟨_, _, hs⟩ := exists_parameter_of_ofReference h
    cases hs
  | invocation =>
    refine ⟨rfl, ?_⟩
    cases eq_accessor_of_ofInvocation h
    exact String.toList_ofList

theorem toList_toString (index : Nat) : (toString index).toList = Nat.toDigits 10 index := by
  rw [Nat.toString_eq_repr, Nat.toList_repr]

theorem isDigit_of_mem_toString {index : Nat} {c : Char} (h : c ∈ (toString index).toList) :
    c.isDigit = true := by
  rw [toList_toString] at h
  exact Nat.isDigit_of_mem_toDigits (by decide) (by decide) h

/-- No digit has a meaning of its own. -/
theorem needsEscape_of_isDigit {c : Char} (h : c.isDigit = true) : needsEscape c = false := by
  by_contra hspecial
  simp only [needsEscape, Bool.not_eq_false, Bool.or_eq_true, decide_eq_true_eq] at hspecial
  rcases hspecial with (rfl | rfl) | rfl <;> contradiction

theorem takeWhile_isDigit {digits label : List Char} (hdigits : ∀ c ∈ digits, c.isDigit = true)
    (hlabel : ∀ c ∈ label.head?, c.isDigit = false) :
    (digits ++ label).takeWhile Char.isDigit = digits := by
  rw [List.takeWhile_append_of_pos hdigits]
  cases label with
  | nil => simp
  | cons c label =>
    have hc : c.isDigit = false := hlabel c rfl
    simp [hc]

/-- A reference that starts with digits is read as the position that they denote. -/
theorem ofReference_digits {digits label : List Char} (hne : digits ≠ [])
    (hdigits : ∀ c ∈ digits, c.isDigit = true) (hlabel : ∀ c ∈ label.head?, c.isDigit = false) :
    ofReference (digits ++ label) =
      if valueOfDigits digits < indexBound then .ok (.parameter (valueOfDigits digits))
      else .error (.indexOverflow (String.ofList (digits ++ label))) := by
  rw [ofReference, takeWhile_isDigit hdigits hlabel]
  split
  · exact absurd rfl hne
  · rfl

/-- The digits of a position are read back as the position, whatever label follows them. -/
theorem ofReference_toString {index : Nat} {label : List Char} (h : index < indexBound)
    (hlabel : ∀ c ∈ label.head?, c.isDigit = false) :
    ofReference ((toString index).toList ++ label) = .ok (.parameter index) := by
  have hne : (toString index).toList ≠ [] := by
    rw [toList_toString]
    exact Nat.toDigits_ne_nil
  have hvalue : valueOfDigits (toString index).toList = index := by
    rw [toList_toString, valueOfDigits, ← Nat.ofDigitChars_eq_foldl,
      Nat.ofDigitChars_ten_toDigits]
  rw [ofReference_digits hne (fun c hc => isDigit_of_mem_toString hc) hlabel, hvalue, if_pos h]

/-- A name with `()` after it is an invocation of what precedes its first parenthesis. -/
theorem ofInvocation_append_parentheses (name : List Char) :
    ofInvocation (name ++ ['(', ')']) =
      .ok (.accessor (String.ofList (name.takeWhile (· ≠ '(')))) := by
  have hsuffix : ['(', ')'].isSuffixOf (name ++ ['(', ')']) = true :=
    List.isSuffixOf_iff_suffix.mpr (List.suffix_append name _)
  have hname : (name ++ ['(', ')']).takeWhile (· ≠ '(') = name.takeWhile (· ≠ '(') := by
    induction name with
    | nil => rfl
    | cons c name ih =>
      by_cases hc : c = '('
      · simp [hc]
      · simpa [hc] using ih (List.isSuffixOf_iff_suffix.mpr (List.suffix_append name _))
  rw [ofInvocation, if_pos hsuffix, hname]

end Segment

namespace Destination

variable {mode : ScanMode} {run rest : List Char} {c : Char}

@[simp] theorem endRun_nil (mode : ScanMode) : endRun mode [] = [] := rfl

theorem endRun_of_ne_nil (h : run ≠ []) : endRun mode run = [Segment.ofRun mode run] := by
  rw [endRun, if_neg (by simpa using h)]

/-! ## The steps of the scanner -/

@[simp] theorem scanFrom_nil (mode : ScanMode) (run : List Char) :
    scanFrom mode run [] = endRun mode run := by
  rw [scanFrom]

@[simp] theorem scanFrom_trailing (mode : ScanMode) (run : List Char) :
    scanFrom mode run ['\\'] = endRun mode run := by
  rw [scanFrom]

@[simp] theorem scanFrom_escaped (mode : ScanMode) (run : List Char) (c : Char)
    (rest : List Char) :
    scanFrom mode run ('\\' :: c :: rest) = scanFrom mode (run ++ [c]) rest := by
  rw [scanFrom]

@[simp] theorem scanFrom_opening (mode : ScanMode) (run rest : List Char) :
    scanFrom mode run ('{' :: rest) = endRun mode run ++ scanFrom .reference [] rest := by
  simp [scanFrom]

theorem scanFrom_closing (h : mode ≠ .text) :
    scanFrom mode run ('}' :: rest) = endRun mode run ++ scanFrom .text [] rest := by
  simp [scanFrom, h]

theorem scanFrom_data (h : mode.Takes c) :
    scanFrom mode run (c :: rest) = scanFrom (mode.after c) (run ++ [c]) rest := by
  obtain ⟨hbackslash, hopen, hclose⟩ := h
  rw [scanFrom.eq_4 _ _ _ _ (fun hc => absurd hc hbackslash) (fun _ _ hc => absurd hc hbackslash),
    if_neg hopen]
  by_cases hmode : mode = .text
  · subst hmode
    simp
  · have hne : c ≠ '}' := fun hc => hmode (hclose hc)
    by_cases hpar : c = '(' ∨ c = ')'
    · simp [hmode, hpar, ScanMode.after]
    · simp [hmode, hpar, hne, ScanMode.after]

/-- Induction along the steps of the scanner: what is shown for the state after each of the six
steps holds of every state and every text. -/
theorem scan_induction {motive : ScanMode → List Char → List Char → Prop}
    (nil : ∀ mode run, motive mode run [])
    (trailing : ∀ mode run, motive mode run ['\\'])
    (escaped : ∀ mode run c rest, motive mode (run ++ [c]) rest →
      motive mode run ('\\' :: c :: rest))
    (opening : ∀ mode run rest, motive .reference [] rest → motive mode run ('{' :: rest))
    (closing : ∀ mode run rest, mode ≠ .text → motive .text [] rest →
      motive mode run ('}' :: rest))
    (data : ∀ mode run c rest, mode.Takes c → motive (mode.after c) (run ++ [c]) rest →
      motive mode run (c :: rest))
    (mode : ScanMode) (run text : List Char) : motive mode run text := by
  have ne_backslash : ∀ {c : Char} {rest : List Char}, (c = '\\' → rest = [] → False) →
      (∀ d tail, c = '\\' → rest = d :: tail → False) → c ≠ '\\' := by
    intro c rest hnil hcons hc
    cases rest with
    | nil => exact hnil hc rfl
    | cons d tail => exact hcons d tail hc rfl
  induction mode, run, text using scanFrom.induct with
  | case1 mode run => exact nil mode run
  | case2 mode run => exact trailing mode run
  | case3 mode run c rest ih => exact escaped mode run c rest ih
  | case4 mode run rest _ _ ih => exact opening mode run rest ih
  | case5 run c rest hnil hcons hopen ih =>
    exact data .text run c rest ⟨ne_backslash hnil hcons, hopen, fun _ => rfl⟩ (by simpa using ih)
  | case6 mode run c rest hnil hcons hopen hmode hpar ih =>
    have hpar : c = '(' ∨ c = ')' := by simpa using hpar
    refine data mode run c rest ⟨ne_backslash hnil hcons, hopen, ?_⟩ ?_
    · rintro rfl
      simp at hpar
    · simpa [ScanMode.after, hmode, hpar] using ih
  | case7 mode run rest hmode _ _ _ _ ih => exact closing mode run rest hmode ih
  | case8 mode run c rest hnil hcons hopen hmode hpar hclose ih =>
    have hpar : ¬ (c = '(' ∨ c = ')') := by simpa using hpar
    refine data mode run c rest
      ⟨ne_backslash hnil hcons, hopen, fun hc => absurd hc hclose⟩ ?_
    simpa [ScanMode.after, hpar] using ih

/-! ## Stretches of text -/

/-- Characters without a meaning of their own join the run one after another. -/
theorem scanFrom_append_plain {s : List Char} (h : ∀ c ∈ s, Segment.needsEscape c = false) :
    scanFrom mode run (s ++ rest) = scanFrom (s.foldl ScanMode.after mode) (run ++ s) rest := by
  induction s generalizing mode run with
  | nil => simp
  | cons c s ih =>
    have hc : mode.Takes c := ScanMode.takes_of_not_needsEscape (h c List.mem_cons_self)
    rw [List.cons_append, scanFrom_data hc, ih fun d hd => h d (List.mem_cons_of_mem c hd)]
    simp

/-- An escaped text joins the run as the text itself. -/
theorem scanFrom_escape (text : List Char) :
    scanFrom .text run (Segment.escape text ++ rest) = scanFrom .text (run ++ text) rest := by
  induction text generalizing run with
  | nil => simp [Segment.escape]
  | cons c text ih =>
    have hcons : Segment.escape (c :: text) =
        (if Segment.needsEscape c then ['\\', c] else [c]) ++ Segment.escape text := by
      simp [Segment.escape]
    rw [hcons]
    cases hc : Segment.needsEscape c with
    | true => simp [ih]
    | false => simp [scanFrom_data (ScanMode.takes_of_not_needsEscape hc), ih]

/-- What stands between braces makes one entry, if it has no special characters. -/
theorem scanFrom_braces {s : List Char} (hne : s ≠ [])
    (h : ∀ c ∈ s, Segment.needsEscape c = false) :
    scanFrom mode run ('{' :: (s ++ '}' :: rest)) =
      endRun mode run ++
        Segment.ofRun (s.foldl ScanMode.after .reference) s :: scanFrom .text [] rest := by
  have hmode : s.foldl ScanMode.after .reference ≠ .text := by
    simp [ScanMode.foldl_after_eq_text_iff]
  rw [scanFrom_opening, scanFrom_append_plain h, List.nil_append, scanFrom_closing hmode,
    endRun_of_ne_nil hne, List.singleton_append]

/-- A position with a label between braces is read as the position. -/
theorem scanFrom_labelled {index : Nat} {label : List Char} (h : index < Segment.indexBound)
    (hplain : ∀ c ∈ label, Segment.needsEscape c = false ∧ c ≠ '(' ∧ c ≠ ')')
    (hfirst : ∀ c ∈ label.head?, c.isDigit = false) :
    scanFrom mode run ('{' :: ((toString index).toList ++ (label ++ '}' :: rest))) =
      endRun mode run ++ .ok (.parameter index) :: scanFrom .text [] rest := by
  have hne : (toString index).toList ++ label ≠ [] := by
    rw [Segment.toList_toString]
    exact List.append_ne_nil_of_left_ne_nil Nat.toDigits_ne_nil label
  -- Neither digits nor a label have a parenthesis, so the reference does not become an invocation.
  have hchars : ∀ c ∈ (toString index).toList ++ label,
      Segment.needsEscape c = false ∧ c ≠ '(' ∧ c ≠ ')' := by
    intro c hc
    rcases List.mem_append.mp hc with hc | hc
    · have hdigit := Segment.isDigit_of_mem_toString hc
      refine ⟨Segment.needsEscape_of_isDigit hdigit, ?_, ?_⟩ <;> rintro rfl <;> contradiction
    · exact hplain c hc
  have hmode : ((toString index).toList ++ label).foldl ScanMode.after .reference = .reference :=
    ScanMode.foldl_after_of_no_parenthesis fun c hc => (hchars c hc).2
  rw [← List.append_assoc, scanFrom_braces hne fun c hc => (hchars c hc).1, hmode,
    Segment.ofRun_reference, Segment.ofReference_toString h hfirst]

theorem scanFrom_parameter {index : Nat} (h : index < Segment.indexBound) :
    scanFrom mode run (Segment.render (.parameter index) ++ rest) =
      endRun mode run ++ .ok (.parameter index) :: scanFrom .text [] rest := by
  have hlabelled := @scanFrom_labelled mode run rest index [] h (by simp) (by simp)
  simpa [Segment.render] using hlabelled

theorem scanFrom_accessor {name : String}
    (h : ∀ c ∈ name.toList, Segment.needsEscape c = false) :
    scanFrom mode run (Segment.render (.accessor name) ++ rest) =
      endRun mode run ++
        .ok (.accessor (String.ofList (name.toList.takeWhile (· ≠ '(')))) ::
          scanFrom .text [] rest := by
  have hplain : ∀ c ∈ name.toList ++ ['(', ')'], Segment.needsEscape c = false := by
    intro c hc
    rcases List.mem_append.mp hc with hc | hc
    · exact h c hc
    · simp only [List.mem_cons, List.not_mem_nil, or_false] at hc
      rcases hc with rfl | rfl <;> decide
  have hmode : (name.toList ++ ['(', ')']).foldl ScanMode.after .reference = .invocation := by
    have hname : name.toList.foldl ScanMode.after .reference ≠ .text := by
      simp [ScanMode.foldl_after_eq_text_iff]
    simp [ScanMode.after, hname]
  have hrender : Segment.render (.accessor name) ++ rest =
      '{' :: ((name.toList ++ ['(', ')']) ++ '}' :: rest) := by
    simp [Segment.render]
  rw [hrender, scanFrom_braces (by simp) hplain, hmode, Segment.ofRun_invocation,
    Segment.ofInvocation_append_parentheses]

/-! ## Where entries come from -/

/-- Every entry is made from a run that is not empty. -/
theorem mem_scanFrom {text : List Char} {entry : Except SegmentError Segment}
    (h : entry ∈ scanFrom mode run text) :
    ∃ mode' run', run' ≠ [] ∧ entry = Segment.ofRun mode' run' := by
  have ended : ∀ {mode run}, entry ∈ endRun mode run →
      ∃ mode' run', run' ≠ [] ∧ entry = Segment.ofRun mode' run' := by
    intro mode run hentry
    by_cases hrun : run = []
    · simp [hrun] at hentry
    · rw [endRun_of_ne_nil hrun, List.mem_singleton] at hentry
      exact ⟨mode, run, hrun, hentry⟩
  induction mode, run, text using scan_induction with
  | nil mode run => exact ended (by simpa using h)
  | trailing mode run => exact ended (by simpa using h)
  | escaped mode run c rest ih => exact ih (by simpa using h)
  | opening mode run rest ih =>
    rw [scanFrom_opening, List.mem_append] at h
    exact h.elim ended ih
  | closing mode run rest hmode ih =>
    rw [scanFrom_closing hmode, List.mem_append] at h
    exact h.elim ended ih
  | data mode run c rest hc ih =>
    rw [scanFrom_data hc] at h
    exact ih h

/-- No entry is an empty literal. -/
theorem ne_empty_of_mem_scanFrom {text : List Char} {s : String}
    (h : .ok (.literal s) ∈ scanFrom mode run text) : s ≠ "" := by
  rintro rfl
  obtain ⟨mode', run', hrun, hentry⟩ := mem_scanFrom h
  obtain ⟨-, htext⟩ := Segment.eq_text_of_ofRun_literal hentry.symm
  exact hrun (by simpa using congrArg String.toList htext.symm)

/-- The first entry is made from the run that is open, once that has data: of this data and what
still joins it. Only a run of text becomes a literal. -/
theorem head?_scanFrom (mode : ScanMode) {run : List Char} (hrun : run ≠ []) (text : List Char) :
    ∃ mode' more, (scanFrom mode run text).head? = some (Segment.ofRun mode' (run ++ more)) ∧
      (mode' = .text ↔ mode = .text) := by
  have ended : ∀ {mode run} (rest : List (Except SegmentError Segment)), run ≠ [] →
      ∃ mode' more, (endRun mode run ++ rest).head? = some (Segment.ofRun mode' (run ++ more)) ∧
        (mode' = .text ↔ mode = .text) := by
    intro mode run rest hrun
    exact ⟨mode, [], by simp [endRun_of_ne_nil hrun], Iff.rfl⟩
  induction mode, run, text using scan_induction with
  | nil mode run => simpa using ended [] hrun
  | trailing mode run => simpa using ended [] hrun
  | escaped mode run c rest ih =>
    obtain ⟨mode', more, hhead, hmode⟩ := ih (by simp)
    exact ⟨mode', c :: more, by simpa using hhead, hmode⟩
  | opening mode run rest ih =>
    rw [scanFrom_opening]
    exact ended _ hrun
  | closing mode run rest hmode ih =>
    rw [scanFrom_closing hmode]
    exact ended _ hrun
  | data mode run c rest hc ih =>
    obtain ⟨mode', more, hhead, hmode⟩ := ih (by simp)
    rw [ScanMode.after_eq_text_iff] at hmode
    exact ⟨mode', c :: more, by simpa [scanFrom_data hc] using hhead, hmode⟩

/-! ## Accepted texts -/

/-- A text is accepted when all its entries are segments, which then make up the destination. -/
theorem parse_eq_ok_iff {text : String} {d : Destination} :
    parse text = .ok d ↔ scan text = d.segments.map .ok := by
  rw [← mapM_id_eq_ok_iff, parse]
  cases (scan text).mapM id with
  | error e => simp [Except.map]
  | ok segments => cases d; simp [Except.map]

/-- A text that is not accepted is turned down for its first entry that is no segment. -/
theorem parse_eq_error_iff {text : String} {e : SegmentError} :
    parse text = .error e ↔
      ∃ (before : List Segment) (after : _), scan text = before.map .ok ++ .error e :: after := by
  rw [← mapM_id_eq_error_iff, parse]
  exact map_eq_error_iff

theorem ok_mem_scan_of_parse {text : String} {d : Destination} {s : Segment}
    (h : parse text = .ok d) (hs : s ∈ d.segments) : .ok s ∈ scan text := by
  rw [parse_eq_ok_iff.mp h]
  exact List.mem_map_of_mem hs

/-- Every segment of an accepted text comes from a run that is not empty. -/
theorem mem_segments_of_parse {text : String} {d : Destination} {s : Segment}
    (h : parse text = .ok d) (hs : s ∈ d.segments) :
    ∃ mode run, run ≠ [] ∧ Segment.ofRun mode run = .ok s := by
  obtain ⟨mode, run, hrun, hok⟩ := mem_scanFrom (ok_mem_scan_of_parse h hs)
  exact ⟨mode, run, hrun, hok.symm⟩

theorem mem_parameters_iff {d : Destination} {index : Nat} :
    index ∈ d.parameters ↔ .parameter index ∈ d.segments := by
  rw [parameters, List.mem_filterMap]
  constructor
  · rintro ⟨s, hs, hindex⟩
    cases s with
    | parameter i => exact Option.some.inj hindex ▸ hs
    | literal text => cases hindex
    | accessor name => cases hindex
  · exact fun h => ⟨_, h, rfl⟩

theorem mem_accessors_iff {d : Destination} {name : String} :
    name ∈ d.accessors ↔ .accessor name ∈ d.segments := by
  rw [accessors, List.mem_filterMap]
  constructor
  · rintro ⟨s, hs, hname⟩
    cases s with
    | accessor n => exact Option.some.inj hname ▸ hs
    | literal text => cases hname
    | parameter index => cases hname
  · exact fun h => ⟨_, h, rfl⟩

theorem empty_literal_not_mem_of_parse {text : String} {d : Destination}
    (h : parse text = .ok d) : .literal "" ∉ d.segments :=
  fun hs => ne_empty_of_mem_scanFrom (ok_mem_scan_of_parse h hs) rfl

theorem lt_indexBound_of_parse {text : String} {d : Destination} (h : parse text = .ok d) :
    ∀ index ∈ d.parameters, index < Segment.indexBound := by
  intro index hindex
  obtain ⟨mode, run, -, hok⟩ := mem_segments_of_parse h (mem_parameters_iff.mp hindex)
  exact Segment.lt_indexBound_of_ofRun_parameter hok

theorem parenthesis_not_mem_of_parse {text : String} {d : Destination}
    (h : parse text = .ok d) : ∀ name ∈ d.accessors, '(' ∉ name.toList := by
  intro name hname hpar
  obtain ⟨mode, run, -, hok⟩ := mem_segments_of_parse h (mem_accessors_iff.mp hname)
  obtain ⟨-, hrun⟩ := Segment.eq_invocation_of_ofRun_accessor hok
  rw [hrun] at hpar
  simpa using List.mem_takeWhile_imp hpar

end Destination

end MethodRoutes
