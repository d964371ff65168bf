import MethodRoutes.Proofs.Destination.Grammar

/-!
# Cutting a destination at its braces

A text may be cut in front of an opening brace, and behind a closing one that ends a reference: what
the scanner gives for the whole text is what it gives for the two parts, one after the other. So a
reference that cannot be read has no say in how its neighbours are read.

The text is followed run by run, as the grammar cuts it. A brace that ends the last run of the first
part begins a run of its own, and this one does not depend on what was there before. Only a backslash
at the end of the first part would take the brace away from it.

## Main definitions

* `EndsInEscape` — the text ends in a backslash that escapes nothing
* `EndsInReference` — the text ends inside of a reference

## Main results

* `Destination.runs_induction` — induction along the runs of a text
* `Destination.runs_append_of_ends` — the runs of two parts
* `Destination.endsInReference_iff` — the last run of a text that ends inside of a reference
* `Destination.scan_cut_at_braces` — the entries of two parts, and of what stands around a reference
-/

namespace MethodRoutes

namespace Destination

/-- The text ends in a backslash that escapes nothing: there is an odd number of backslashes at its
end. -/
def EndsInEscape (text : List Char) : Prop :=
  (text.reverse.takeWhile (· = '\\')).length % 2 = 1

instance (text : List Char) : Decidable (EndsInEscape text) :=
  inferInstanceAs (Decidable (_ = _))

/-- The text ends inside of a reference: no closing brace comes after its last opening one. Braces
that are escaped do not count. -/
def EndsInReference (text : List Char) : Prop :=
  ∃ before after, glyphs text = before ++ ⟨'{', false⟩ :: after ∧ ∀ g ∈ after, g.means '}' = false

variable {reference : Bool} {a b text : List Char} {before after : List Glyph} {g : Glyph} {c : Char}

/-! ## Characters of two parts -/

/-- What precedes a character other than a backslash has no say in how the text ends. -/
theorem endsInEscape_append_cons (h : c ≠ '\\') :
    EndsInEscape (a ++ c :: text) ↔ EndsInEscape text := by
  rw [EndsInEscape, EndsInEscape, List.reverse_append, List.reverse_cons, List.append_assoc,
    List.takeWhile_append]
  split
  · next hall => simp [h, ← hall]
  · rfl

theorem endsInEscape_escaped : EndsInEscape ('\\' :: c :: text) ↔ EndsInEscape text := by
  rw [EndsInEscape, EndsInEscape, List.reverse_cons, List.reverse_cons, List.append_assoc,
    List.takeWhile_append]
  split
  · next hall =>
    rw [hall]
    by_cases hc : c = '\\'
    · simp [hc]
    · simp [hc]
  · rfl

/-- Two parts have the characters of each of them, if no backslash of the first one reaches over. -/
theorem glyphs_append (h : ¬ EndsInEscape a) : glyphs (a ++ b) = glyphs a ++ glyphs b := by
  induction a using glyphs.induct with
  | case1 => rfl
  | case2 => exact absurd (by decide) h
  | case3 c rest ih =>
    -- The backslash takes a character of the first part with it.
    rw [endsInEscape_escaped] at h
    rw [List.cons_append, List.cons_append, glyphs, glyphs, ih h, List.cons_append]
  | case4 c rest hnil hcons ih =>
    have hc : c ≠ '\\' := by
      rintro rfl
      cases rest with
      | nil => exact hnil rfl rfl
      | cons d rest => exact hcons d rest rfl rfl
    have hrest := (endsInEscape_append_cons (a := []) hc).not.mp h
    rw [List.cons_append, glyphs_data hc, glyphs_data hc, ih hrest, List.cons_append]

/-! ## Runs of two parts -/

/-- Induction along the runs of a text: it is one run, or its first run meets an end. -/
theorem runs_induction {motive : Bool → List Glyph → Prop}
    (last : ∀ reference text, (∀ g ∈ text, g.ends reference = false) → motive reference text)
    (cut : ∀ reference pending g rest, (∀ g ∈ pending, g.ends reference = false) →
      g.ends reference = true → motive (g.means '{') rest →
        motive reference (pending ++ g :: rest))
    (reference : Bool) (text : List Glyph) : motive reference text := by
  induction reference, text using runs.induct with
  | case1 reference text ih =>
    have hsplit := List.takeWhile_append_dropWhile (p := fun g => !g.ends reference) (l := text)
    have hpending : ∀ g ∈ text.takeWhile fun g => !g.ends reference, g.ends reference = false :=
      fun g hg => by simpa using List.mem_takeWhile_imp hg
    cases hrest : text.dropWhile fun g => !g.ends reference with
    | nil =>
      rw [hrest, List.append_nil] at hsplit
      rw [hsplit] at hpending
      exact last reference text hpending
    | cons g rest =>
      have hends : g.ends reference = true := by
        have hhead := List.head?_dropWhile_not (fun g : Glyph => !g.ends reference) text
        rw [hrest] at hhead
        simpa using hhead
      rw [← hsplit, hrest]
      exact cut reference _ g rest hpending hends (ih g rest hrest)

theorem runs_ne_nil (reference : Bool) (text : List Glyph) : runs reference text ≠ [] := by
  rw [runs]
  exact List.cons_ne_nil _ _

/-- What ends the last run of a text separates its runs from those that follow. -/
theorem runs_append_of_ends {r : Run} (hlast : (runs reference before).getLast? = some r)
    (hends : g.ends r.reference = true) :
    runs reference (before ++ g :: after) = runs reference before ++ runs (g.means '{') after := by
  induction reference, before using runs_induction with
  | last reference text h =>
    rw [runs_of_not_ends h] at hlast ⊢
    cases hlast
    exact runs_append_ends h hends
  | cut reference pending g' rest h hg' ih =>
    -- The same run is cut off from both texts, and the last run is one of the rest.
    rw [runs_append_ends h hg', List.getLast?_cons_of_ne_nil (runs_ne_nil _ _)] at hlast
    rw [List.append_assoc, List.cons_append, runs_append_ends h hg', runs_append_ends h hg',
      ih hlast, List.cons_append]

/-- An opening brace ends every run. -/
theorem runs_append_opening :
    runs reference (before ++ ⟨'{', false⟩ :: after) = runs reference before ++ runs true after := by
  have hlast := List.getLast?_eq_some_getLast (runs_ne_nil reference before)
  exact runs_append_of_ends hlast Glyph.ends_opening

/-- Behind an opening brace there are references only, up to a closing one. -/
theorem reference_of_mem_runs {text : List Glyph} (h : ∀ g ∈ text, g.means '}' = false) :
    ∀ r ∈ runs true text, r.reference = true := by
  generalize hreference : true = reference
  induction reference, text using runs_induction with
  | last reference text hends =>
    subst hreference
    rw [runs_of_not_ends hends]
    simp
  | cut reference pending g rest hpending hends ih =>
    subst hreference
    -- The end of the first run is no closing brace, so another reference follows.
    have hopen : g.means '{' = true := by
      have hg : g.means '}' = false := h g (by simp)
      simpa [Glyph.ends, hg] using hends
    rw [runs_append_ends hpending hends, hopen]
    rw [hopen] at ih
    have hrest := ih (fun g hg => h g (by simp [hg])) rfl
    simpa using hrest

/-- The last run is a reference only if no closing brace comes after what opened it: this may be a
brace of the text, or the text may begin inside of the reference. -/
theorem exists_opening_of_getLast? {text : List Glyph} {r : Run}
    (hlast : (runs reference text).getLast? = some r) (hr : r.reference = true) :
    (reference = true ∧ ∀ g ∈ text, g.means '}' = false) ∨
      ∃ before after, text = before ++ ⟨'{', false⟩ :: after ∧ ∀ g ∈ after, g.means '}' = false := by
  induction reference, text using runs_induction with
  | last reference text h =>
    rw [runs_of_not_ends h] at hlast
    cases hlast
    obtain rfl : reference = true := hr
    refine .inl ⟨rfl, fun g hg => ?_⟩
    have hends := h g hg
    rw [Glyph.ends, Bool.true_and, Bool.or_eq_false_iff] at hends
    exact hends.2
  | cut reference pending g rest h hg ih =>
    rw [runs_append_ends h hg, List.getLast?_cons_of_ne_nil (runs_ne_nil _ _)] at hlast
    right
    rcases ih hlast with ⟨hopen, hrest⟩ | ⟨before, after, rfl, hafter⟩
    · -- The end of the first run opens the last one.
      obtain ⟨char, escaped⟩ := g
      obtain ⟨rfl, rfl⟩ : escaped = false ∧ char = '{' := by simpa [Glyph.means] using hopen
      exact ⟨pending, rest, rfl, hrest⟩
    · exact ⟨pending ++ g :: before, after, by simp, hafter⟩

/-- A text ends inside of a reference exactly if its last run is one. -/
theorem endsInReference_iff :
    EndsInReference text ↔
      ∃ r, (runs false (glyphs text)).getLast? = some r ∧ r.reference = true := by
  constructor
  · rintro ⟨before, after, hglyphs, hafter⟩
    have hlast := List.getLast?_eq_some_getLast (runs_ne_nil true after)
    refine ⟨_, ?_, reference_of_mem_runs hafter _ (List.mem_of_getLast? hlast)⟩
    rw [hglyphs, runs_append_opening, List.getLast?_append_of_ne_nil _ (runs_ne_nil true after),
      hlast]
  · rintro ⟨r, hlast, hr⟩
    rcases exists_opening_of_getLast? hlast hr with ⟨h, -⟩ | h
    · cases h
    · exact h

/-! ## Entries of two parts -/

variable {s t mark : String}

/-- A character between two parts has its own meaning, if no backslash reaches over to it. -/
theorem glyphs_append_mark (h : ¬ EndsInEscape s.toList) (hmark : mark.toList = [c])
    (hc : c ≠ '\\') :
    glyphs (s ++ mark ++ t).toList = glyphs s.toList ++ ⟨c, false⟩ :: glyphs t.toList := by
  rw [String.toList_append, String.toList_append, List.append_assoc, glyphs_append h, hmark,
    List.singleton_append, glyphs_data hc]

theorem scan_opening (t : String) :
    scan ("\x7b" ++ t) = (runs true (glyphs t.toList)).flatMap Run.entries := by
  have hglyphs : glyphs ("\x7b" ++ t).toList = ⟨'{', false⟩ :: glyphs t.toList := by
    rw [String.toList_append]
    exact glyphs_data (by decide)
  -- In front of the brace there is a run of text without characters, which has no entry.
  rw [scan_eq_flatMap_runs, hglyphs, ← List.nil_append (_ :: _), runs_append_opening,
    runs_of_not_ends (by simp)]
  rfl

/-- An opening brace ends what is in front of it, and what it begins does not depend on that. -/
theorem scan_append_opening (h : ¬ EndsInEscape s.toList) (t : String) :
    scan (s ++ "\x7b" ++ t) = scan s ++ scan ("\x7b" ++ t) := by
  rw [scan_opening, scan_eq_flatMap_runs, scan_eq_flatMap_runs,
    glyphs_append_mark h (c := '{') rfl (by decide), runs_append_opening, List.flatMap_append]

/-- A closing brace ends the reference in front of it, and text follows. -/
theorem scan_append_closing (h : ¬ EndsInEscape s.toList) (hreference : EndsInReference s.toList)
    (t : String) : scan (s ++ "\x7d" ++ t) = scan s ++ scan t := by
  obtain ⟨r, hlast, hr⟩ := endsInReference_iff.mp hreference
  have hends : Glyph.ends r.reference ⟨'}', false⟩ = true := hr ▸ Glyph.ends_closing
  rw [scan_eq_flatMap_runs, scan_eq_flatMap_runs, scan_eq_flatMap_runs,
    glyphs_append_mark h (c := '}') rfl (by decide), runs_append_of_ends hlast hends,
    List.flatMap_append]
  rfl

/-- A reference without braces of its own has at most one entry. -/
theorem length_scan_opening_le (h : ∀ g ∈ glyphs t.toList, g.ends true = false) :
    (scan ("\x7b" ++ t)).length ≤ 1 := by
  rw [scan_opening, runs_of_not_ends h, List.flatMap_singleton, Run.entries, endRun]
  split
  · exact Nat.zero_le 1
  · exact Nat.le_refl 1

/-- The entries of a text that is cut at its braces.

In front of an opening brace a text may be cut anywhere, and behind a closing one if it ends a
reference: the entries of the whole are those of the two parts. A backslash must not reach over the
cut. So whatever stands in a reference without braces of its own, well formed or not, the reference
has at most one entry, and around it stand the entries of the text before it and of the text behind
it. -/
theorem scan_cut_at_braces (h : ¬ EndsInEscape s.toList) :
    (∀ t, scan (s ++ "\x7b" ++ t) = scan s ++ scan ("\x7b" ++ t)) ∧
    (EndsInReference s.toList → ∀ t, scan (s ++ "\x7d" ++ t) = scan s ++ scan t) ∧
    ∀ inner t, ¬ EndsInEscape inner.toList → (∀ g ∈ glyphs inner.toList, g.ends true = false) →
      scan (s ++ "\x7b" ++ inner ++ "\x7d" ++ t) =
          scan s ++ scan ("\x7b" ++ inner) ++ scan t ∧
        (scan ("\x7b" ++ inner)).length ≤ 1 := by
  refine ⟨scan_append_opening h, scan_append_closing h, fun inner t hinner hbraces => ?_⟩
  refine ⟨?_, length_scan_opening_le hbraces⟩
  -- The reference is open until its closing brace, since it has no other one.
  have hescape : ¬ EndsInEscape (s ++ "\x7b" ++ inner).toList := by
    rw [String.toList_append, String.toList_append, List.append_assoc]
    exact (endsInEscape_append_cons (c := '{') (by decide)).not.mpr hinner
  have hclosing : ∀ g ∈ glyphs inner.toList, g.means '}' = false := by
    intro g hg
    have hends := hbraces g hg
    rw [Glyph.ends, Bool.true_and, Bool.or_eq_false_iff] at hends
    exact hends.2
  have hreference : EndsInReference (s ++ "\x7b" ++ inner).toList :=
    ⟨_, _, glyphs_append_mark h rfl (by decide), hclosing⟩
  rw [scan_append_closing hescape hreference, scan_append_opening h]

/-- Two references that cannot be read, the first of which is never closed, and what stands around
them. The second one has an escaped brace. -/
theorem scan_cut_at_braces_sample :
    scan ("/a/\x7bx" ++ "\x7b" ++ "1\x7d") =
        [.ok (.literal "/a/"), .error (.missingParentheses "x"), .ok (.parameter 1)] ∧
      scan ("/a/\x7bx" ++ "\x7d" ++ "/\x7b1\x7d") =
        [.ok (.literal "/a/"), .error (.missingParentheses "x"), .ok (.literal "/"),
          .ok (.parameter 1)] ∧
      scan ("/a/\x7bx" ++ "\x7b" ++ "y\\\x7d" ++ "\x7d" ++ "\\\x7b") =
        [.ok (.literal "/a/"), .error (.missingParentheses "x"),
          .error (.missingParentheses "y\x7d"), .ok (.literal "\x7b")] := by
  have hstart : scan "/a/\x7bx" = [.ok (.literal "/a/"), .error (.missingParentheses "x")] := rfl
  have hopen : EndsInReference "/a/\x7bx".toList :=
    ⟨[⟨'/', false⟩, ⟨'a', false⟩, ⟨'/', false⟩], [⟨'x', false⟩], rfl, by decide⟩
  obtain ⟨hopening, hclosing, hreference⟩ :=
    scan_cut_at_braces (s := "/a/\x7bx") (by decide)
  obtain ⟨hsplit, -⟩ := hreference "y\\\x7d" "\\\x7b" (by decide) (by decide)
  rw [hopening, hclosing hopen, hsplit, hstart]
  exact ⟨rfl, rfl, rfl⟩

end Destination

end MethodRoutes
