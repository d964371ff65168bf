import MethodRoutes.Json.Document
import MethodRoutes.Proofs.Except
import MethodRoutes.Proofs.Json.Digits

/-!
# How numbers are spelled

A number has a sign, digits, a point with further digits, and an exponent; all but the first digits
may be missing. This file states that as rules apart from the reader, says which number the parts
denote, and shows that the reader takes what the rules allow as far as it goes.

The rules say nothing about what may follow a number. The reader goes on as long as it can, so it
takes the whole of a number exactly where none of its parts could go on behind it.

## Main definitions

* `Json.SpellsNumber` — what is written, and the number that it denotes
* `Json.Amounts` — the number of a sign, digits and an exponent, within the limits
* `Json.Stops` — what no number goes on with

## Main results

* `Json.amounts_iff` — the number that the reader makes of the parts
* `Json.readNumber_of_spells`, `Json.spells_of_readNumber` — the reader and the rules
-/

namespace MethodRoutes.Json

/-! ## The rules -/

/-- The digits before the point: none of them follows a leading zero. -/
def IsWholePart (s : Bytes) : Prop := IsDigits s ∧ (s.head? = some 0x30 → s = [0x30])

/-- The point with its digits, and these digits. -/
inductive SpellsFraction : Bytes → Bytes → Prop
  | absent : SpellsFraction [] []
  | point {digits : Bytes} (h : IsDigits digits) : SpellsFraction (0x2E :: digits) digits

/-- The sign of an exponent, and whether the exponent is negative. -/
inductive SpellsSign : Bytes → Bool → Prop
  | absent : SpellsSign [] false
  | plus : SpellsSign [0x2B] false
  | minus : SpellsSign [0x2D] true

/-- A number with its sign. -/
def signed (negative : Bool) (n : Nat) : Int := if negative then -(n : Int) else n

/-- The mark of an exponent with its sign and digits, and the exponent. -/
inductive SpellsExponent : Bytes → Option Int → Prop
  | absent : SpellsExponent [] none
  | mark {b : UInt8} {sign digits : Bytes} {down : Bool} (hb : b = 0x65 ∨ b = 0x45)
    (hsign : SpellsSign sign down) (hdigits : IsDigits digits) :
    SpellsExponent (b :: (sign ++ digits)) (some (signed down (decimalValue digits)))

/-- The whole numbers that are kept exactly: those of an unsigned machine word, and the negative
ones of a signed one. A zero with a minus sign is none of them. -/
def IsKept (negative : Bool) (n : Nat) : Prop :=
  if negative then 0 < n ∧ n ≤ 0x8000000000000000 else n < 0x10000000000000000

/-- The number that the parts denote: a whole number that can be kept if there is neither a fraction
nor an exponent, and a floating-point number otherwise. -/
inductive Amounts (negative : Bool) (whole fraction : Bytes) : Option Int → Number → Prop
  /-- A whole number is kept. -/
  | integer (empty : fraction = []) (kept : IsKept negative (decimalValue whole)) :
    Amounts negative whole fraction none (.integer (signed negative (decimalValue whole)))
  /-- Everything else is converted. -/
  | float {exponent : Option Int} {x : Float}
    (other : fraction = [] → exponent = none → ¬ IsKept negative (decimalValue whole))
    (converts : Converts whole fraction (exponent.getD 0) x) :
    Amounts negative whole fraction exponent (.float (if negative then -x else x))

/-- What may stand for a number behind its sign, and the number that it denotes. -/
inductive SpellsMagnitude (negative : Bool) : Bytes → Number → Prop
  | parts {whole point fraction mark : Bytes} {exponent : Option Int} {n : Number}
    (hwhole : IsWholePart whole) (hpoint : SpellsFraction point fraction)
    (hmark : SpellsExponent mark exponent)
    (value : Amounts negative whole fraction exponent n) :
    SpellsMagnitude negative (whole ++ (point ++ mark)) n

/-- What may stand for a number, and the number that it denotes. -/
inductive SpellsNumber : Bytes → Number → Prop
  | positive {written : Bytes} {n : Number} (h : SpellsMagnitude false written n) :
    SpellsNumber written n
  | negative {written : Bytes} {n : Number} (h : SpellsMagnitude true written n) :
    SpellsNumber (0x2D :: written) n

/-- Behind a number the text does not go on with a digit, a point or the mark of an exponent. -/
def Stops (s : Bytes) : Prop :=
  ∀ b ∈ s.head?, isDigit b = false ∧ b ≠ 0x2E ∧ b ≠ 0x65 ∧ b ≠ 0x45

theorem stops_nil : Stops [] := nofun

variable {negative : Bool} {whole fraction point mark written s rest : Bytes}
  {exponent : Option Int} {n : Number} {d : Decimal}

/-! ## The numbers that the reader makes -/

/-- The floating-point number of a decimal with an exponent. Exponents beyond the bound are out of
range, unless all digits are zero, and so is what is converted to an infinity. -/
def floatValue? (negative : Bool) (d : Decimal) (exponent : Int) : Option Number :=
  if d.digits ≠ 0 ∧ (exponentBound : Int) ≤ exponent then none
  else (Decimal.toFloat? ⟨d.digits, d.exponent + exponent⟩).map fun x =>
    .float (if negative then -x else x)

/-- The number that the reader makes of the parts. -/
def numberValue? (negative : Bool) (whole fraction : Bytes) (exponent : Option Int) :
    Option Number :=
  let whole? : Option Int :=
    if fraction = [] ∧ exponent = none then wholeNumber? negative (digitsValue whole) else none
  match whole? with
  | some n => some (.integer n)
  | none => floatValue? negative (decimalOf whole fraction) (exponent.getD 0)

theorem wholeNumber?_eq_some_iff {m : Nat} {k : Int} :
    wholeNumber? negative m = some k ↔ IsKept negative m ∧ k = signed negative m := by
  have hbound : 2 * m ≤ wordBound ↔ m ≤ 0x8000000000000000 := by
    rw [wordBound]
    omega
  cases negative with
  | false =>
    change (if m < wordBound then some (m : Int) else none) = some k ↔ m < wordBound ∧ k = m
    rw [Option.ite_none_right_eq_some, Option.some.injEq, eq_comm]
  | true => simp [wholeNumber?, IsKept, signed, hbound, eq_comm]

theorem floatValue?_eq_some_iff {e : Int} :
    floatValue? negative (decimalOf whole fraction) e = some n ↔
      ∃ x, Converts whole fraction e x ∧ n = .float (if negative then -x else x) := by
  simp only [← toFloat?_decimalOf_eq_some_iff, floatValue?, Option.ite_none_left_eq_some,
    Option.map_eq_some_iff, eq_comm (b := n), and_assoc, exists_and_left]

theorem numberValue?_of_isKept (h : IsKept negative (decimalValue whole)) :
    numberValue? negative whole [] none =
      some (.integer (signed negative (decimalValue whole))) := by
  rw [numberValue?, if_pos ⟨rfl, rfl⟩, digitsValue_eq, wholeNumber?_eq_some_iff.mpr ⟨h, rfl⟩]

theorem numberValue?_of_not_isKept
    (h : fraction = [] → exponent = none → ¬ IsKept negative (decimalValue whole)) :
    numberValue? negative whole fraction exponent =
      floatValue? negative (decimalOf whole fraction) (exponent.getD 0) := by
  have hnone : (if fraction = [] ∧ exponent = none then wholeNumber? negative (digitsValue whole)
      else none) = none := by
    rw [Option.eq_none_iff_forall_ne_some]
    intro k hk
    obtain ⟨⟨hfraction, hexponent⟩, hwhole⟩ := Option.ite_none_right_eq_some.mp hk
    rw [digitsValue_eq] at hwhole
    exact h hfraction hexponent (wholeNumber?_eq_some_iff.mp hwhole).1
  rw [numberValue?, hnone]

/-- The reader makes of the parts what the rules say. -/
theorem amounts_iff :
    Amounts negative whole fraction exponent n ↔
      numberValue? negative whole fraction exponent = some n := by
  constructor
  · rintro (⟨rfl, hkept⟩ | ⟨hother, hconverts⟩)
    · exact numberValue?_of_isKept hkept
    · rw [numberValue?_of_not_isKept hother]
      exact floatValue?_eq_some_iff.mpr ⟨_, hconverts, rfl⟩
  · intro h
    by_cases hkept : fraction = [] ∧ exponent = none ∧ IsKept negative (decimalValue whole)
    · obtain ⟨rfl, rfl, hkept⟩ := hkept
      rw [numberValue?_of_isKept hkept, Option.some.injEq] at h
      exact h ▸ .integer rfl hkept
    · have hother : fraction = [] → exponent = none → ¬ IsKept negative (decimalValue whole) :=
        fun hfraction hexponent hword => hkept ⟨hfraction, hexponent, hword⟩
      rw [numberValue?_of_not_isKept hother] at h
      obtain ⟨x, hconverts, rfl⟩ := floatValue?_eq_some_iff.mp h
      exact .float hother hconverts

/-! ## Exponents -/

/-- An exponent does not start with a digit. -/
theorem SpellsExponent.not_isDigit (h : SpellsExponent mark exponent) (hrest : Stops rest) :
    ∀ b ∈ (mark ++ rest).head?, isDigit b = false := by
  intro b hb
  cases h with
  | absent => exact (hrest b hb).1
  | mark hmark _ _ =>
    cases hb
    rcases hmark with rfl | rfl
    all_goals rfl

theorem floatNumber_eq_ok_iff {t : Bytes} :
    floatNumber negative d s = .ok (n, t) ↔
      t = s ∧ d.toFloat?.map (fun x => .float (if negative then -x else x)) = some n := by
  rw [floatNumber]
  cases d.toFloat? with
  | none => simp
  | some x => simp [and_comm, eq_comm]

/-- Without an exponent nothing is out of range but what is converted to an infinity. -/
theorem floatValue?_zero : floatValue? negative d 0 =
    d.toFloat?.map fun x => .float (if negative then -x else x) := by
  rw [floatValue?, if_neg, Int.add_zero]
  rintro ⟨-, hbound⟩
  exact absurd hbound (by decide)

/-- What comes of an exponent behind its sign. -/
def afterSign (negative : Bool) (d : Decimal) (down : Bool) :
    Bytes → Except Fault (Number × Bytes)
  | [] => .error (.before .endInValue [])
  | b :: s =>
    if isDigit b then
      let exponent := digitsValue ((b :: s).takeWhile isDigit)
      if exponentBound ≤ exponent ∧ !down ∧ d.digits ≠ 0 then
        .error (.before .numberOutOfRange (dropToBound 0 (b :: s)))
      else
        let shift : Int := if down then -exponent else exponent
        floatNumber negative ⟨d.digits, d.exponent + shift⟩ ((b :: s).dropWhile isDigit)
    else .error (.before .invalidNumber s)

/-- A sign is passed over. -/
theorem readExponent_append {sign t : Bytes} {down : Bool} (hsign : SpellsSign sign down)
    (ht : sign = [] → ∀ b ∈ t.head?, b ≠ 0x2B ∧ b ≠ 0x2D) :
    readExponent negative d (sign ++ t) = afterSign negative d down t := by
  cases hsign with
  | absent =>
    cases t with
    | nil => rfl
    | cons b t =>
      obtain ⟨hplus, hminus⟩ := ht rfl b rfl
      rw [List.nil_append, readExponent]
      simp only [hplus, hminus, if_false]
      rfl
  | plus | minus => cases t <;> rfl

theorem exists_sign (s : Bytes) :
    ∃ sign down t, s = sign ++ t ∧ SpellsSign sign down ∧
      (sign = [] → ∀ b ∈ t.head?, b ≠ 0x2B ∧ b ≠ 0x2D) := by
  cases s with
  | nil => exact ⟨[], false, [], rfl, .absent, fun _ => nofun⟩
  | cons b s =>
    by_cases hplus : b = 0x2B
    · exact ⟨[b], false, s, rfl, hplus ▸ .plus, nofun⟩
    · by_cases hminus : b = 0x2D
      · exact ⟨[b], true, s, rfl, hminus ▸ .minus, nofun⟩
      · refine ⟨[], false, b :: s, rfl, .absent, fun _ c hc => ?_⟩
        cases hc
        exact ⟨hplus, hminus⟩

/-- The value of an exponent behind its sign. -/
theorem afterSign_eq_ok_iff {down : Bool} {digits t : Bytes} (hdigits : IsDigits digits)
    (hrest : ∀ b ∈ rest.head?, isDigit b = false) :
    afterSign negative d down (digits ++ rest) = .ok (n, t) ↔
      t = rest ∧ floatValue? negative d (signed down (decimalValue digits)) = some n := by
  obtain ⟨htake, hdrop⟩ := takeWhile_digits hdigits.isDigit hrest
  obtain ⟨b, s, rfl⟩ := List.exists_cons_of_ne_nil hdigits.1
  rw [List.cons_append] at htake hdrop ⊢
  rw [afterSign, if_pos (hdigits.isDigit b List.mem_cons_self), htake, hdrop,
    digitsValue_eq]
  dsimp only
  rw [← signed]
  -- A negative exponent is never out of range, however many digits it has.
  have hbound : (exponentBound ≤ decimalValue (b :: s) ∧ (!down) = true ∧ d.digits ≠ 0) ↔
      d.digits ≠ 0 ∧ (exponentBound : Int) ≤ signed down (decimalValue (b :: s)) := by
    have hpos : (0 : Int) < exponentBound := by decide
    cases down with
    | true =>
      have hvalue : signed true (decimalValue (b :: s)) = -(decimalValue (b :: s) : Int) := rfl
      simp only [hvalue, Bool.not_true, Bool.false_eq_true, false_and, and_false, false_iff]
      omega
    | false =>
      have hvalue : signed false (decimalValue (b :: s)) = decimalValue (b :: s) := rfl
      simp only [hvalue, Bool.not_false, true_and]
      omega
  rw [floatValue?]
  by_cases hout : d.digits ≠ 0 ∧ (exponentBound : Int) ≤ signed down (decimalValue (b :: s))
  · rw [if_pos (hbound.mpr hout), if_pos hout]
    simp
  · rw [if_neg (mt hbound.mp hout), if_neg hout]
    exact floatNumber_eq_ok_iff

theorem exists_digits_of_afterSign {down : Bool} {p : Number × Bytes}
    (h : afterSign negative d down s = .ok p) :
    ∃ digits t, s = digits ++ t ∧ IsDigits digits ∧ ∀ b ∈ t.head?, isDigit b = false := by
  cases s with
  | nil => cases h
  | cons b s =>
    rw [afterSign] at h
    split at h
    · next hb => exact exists_digits_of_isDigit hb s
    · cases h

/-- What has been read behind the mark of an exponent is spelled by the rules. -/
theorem exists_exponent_of_readExponent {b : UInt8} (hb : b = 0x65 ∨ b = 0x45)
    (h : readExponent negative d s = .ok (n, rest)) :
    ∃ written value, s = written ++ rest ∧ SpellsExponent (b :: written) (some value) ∧
      floatValue? negative d value = some n := by
  obtain ⟨sign, down, t, rfl, hsign, hstart⟩ := exists_sign s
  rw [readExponent_append hsign hstart] at h
  obtain ⟨digits, t, rfl, hdigits, hstop⟩ := exists_digits_of_afterSign h
  obtain ⟨rfl, hvalue⟩ := (afterSign_eq_ok_iff hdigits hstop).mp h
  exact ⟨sign ++ digits, _, (List.append_assoc _ _ _).symm, .mark hb hsign hdigits, hvalue⟩

/-! ## Fractions -/

/-- What comes of the digits of a number that has a point: an exponent may follow them. -/
def afterFraction (negative : Bool) (d : Decimal) : Bytes → Except Fault (Number × Bytes)
  | [] => floatNumber negative d []
  | b :: s =>
    if b = 0x65 || b = 0x45 then readExponent negative d s else floatNumber negative d (b :: s)

theorem afterFraction_mark {b : UInt8} (hb : b = 0x65 ∨ b = 0x45) (s : Bytes) :
    afterFraction negative d (b :: s) = readExponent negative d s := by
  rcases hb with rfl | rfl
  all_goals rfl

/-- The value of a number behind its digits. -/
theorem afterFraction_eq_ok_iff {t : Bytes} (hmark : SpellsExponent mark exponent)
    (hrest : Stops rest) :
    afterFraction negative d (mark ++ rest) = .ok (n, t) ↔
      t = rest ∧ floatValue? negative d (exponent.getD 0) = some n := by
  cases hmark with
  | absent =>
    have hstep : afterFraction negative d rest = floatNumber negative d rest := by
      cases rest with
      | nil => rfl
      | cons b s =>
        obtain ⟨-, -, hlower, hupper⟩ := hrest b rfl
        simp [afterFraction, hlower, hupper]
    rw [List.nil_append, hstep, Option.getD_none, floatValue?_zero]
    exact floatNumber_eq_ok_iff
  | @mark b sign digits down hb hsign hdigits =>
    have hdigit : sign = [] → ∀ c ∈ (digits ++ rest).head?, c ≠ 0x2B ∧ c ≠ 0x2D := by
      intro _ c hc
      obtain ⟨e, s, rfl⟩ := List.exists_cons_of_ne_nil hdigits.1
      have he := hdigits.isDigit e List.mem_cons_self
      cases hc
      exact ⟨ne_of_isDigit he rfl, ne_of_isDigit he rfl⟩
    rw [List.cons_append, List.append_assoc, afterFraction_mark hb,
      readExponent_append hsign hdigit]
    exact afterSign_eq_ok_iff hdigits fun c hc => (hrest c hc).1

theorem exists_exponent_of_afterFraction (h : afterFraction negative d s = .ok (n, rest)) :
    ∃ mark exponent, s = mark ++ rest ∧ SpellsExponent mark exponent ∧
      floatValue? negative d (exponent.getD 0) = some n := by
  have hnone : floatNumber negative d s = .ok (n, rest) →
      ∃ mark exponent, s = mark ++ rest ∧ SpellsExponent mark exponent ∧
        floatValue? negative d (exponent.getD 0) = some n := by
    intro hfloat
    obtain ⟨rfl, hvalue⟩ := floatNumber_eq_ok_iff.mp hfloat
    exact ⟨[], none, rfl, .absent, by rw [Option.getD_none, floatValue?_zero, hvalue]⟩
  cases s with
  | nil => exact hnone h
  | cons b s =>
    rw [afterFraction] at h
    split at h
    · next hb =>
      rw [Bool.or_eq_true, decide_eq_true_eq, decide_eq_true_eq] at hb
      obtain ⟨written, value, rfl, hmark, hvalue⟩ := exists_exponent_of_readExponent hb h
      exact ⟨b :: written, some value, rfl, hmark, hvalue⟩
    · exact hnone h

/-- A number with a fraction or an exponent is a floating-point number. -/
theorem numberValue?_of_not_whole (h : fraction ≠ [] ∨ exponent ≠ none) :
    numberValue? negative whole fraction exponent =
      floatValue? negative (decimalOf whole fraction) (exponent.getD 0) := by
  refine numberValue?_of_not_isKept fun hfraction hexponent => ?_
  rcases h with h | h
  · exact absurd hfraction h
  · exact absurd hexponent h

/-- Without a fraction and an exponent, whole numbers are kept if they are machine words. -/
theorem finish_eq_ok_iff {t : Bytes} :
    readFraction.finish negative whole s = .ok (n, t) ↔
      t = s ∧ numberValue? negative whole [] none = some n := by
  rw [readFraction.finish, numberValue?, if_pos ⟨rfl, rfl⟩]
  cases wholeNumber? negative (digitsValue whole) with
  | some value => simp [and_comm, eq_comm]
  | none =>
    dsimp only
    rw [Option.getD_none, floatValue?_zero]
    exact floatNumber_eq_ok_iff

theorem readFraction_point {t : Bytes} (hfraction : IsDigits fraction)
    (ht : ∀ b ∈ t.head?, isDigit b = false) :
    readFraction negative whole (0x2E :: (fraction ++ t)) =
      afterFraction negative (decimalOf whole fraction) t := by
  obtain ⟨htake, hdrop⟩ := takeWhile_digits hfraction.isDigit ht
  obtain ⟨b, s, rfl⟩ := List.exists_cons_of_ne_nil hfraction.1
  rw [readFraction.eq_def]
  dsimp only
  rw [if_pos rfl, htake, hdrop]
  cases t <;> rfl

theorem readFraction_mark {b : UInt8} (hb : b = 0x65 ∨ b = 0x45) (s : Bytes) :
    readFraction negative whole (b :: s) = readExponent negative (decimalOf whole []) s := by
  rcases hb with rfl | rfl
  all_goals rfl

theorem readFraction_finish (h : ∀ b ∈ s.head?, b ≠ 0x2E ∧ b ≠ 0x65 ∧ b ≠ 0x45) :
    readFraction negative whole s = readFraction.finish negative whole s := by
  cases s with
  | nil => rfl
  | cons b s =>
    obtain ⟨hpoint, hlower, hupper⟩ := h b rfl
    simp [readFraction, hpoint, hlower, hupper]

/-- A number is taken from behind the digits before its point. -/
theorem readFraction_of_spells (hpoint : SpellsFraction point fraction)
    (hmark : SpellsExponent mark exponent) (hrest : Stops rest)
    (hvalue : numberValue? negative whole fraction exponent = some n) :
    readFraction negative whole (point ++ (mark ++ rest)) = .ok (n, rest) := by
  cases hpoint with
  | point hfraction =>
    rw [numberValue?_of_not_whole (.inl hfraction.1)] at hvalue
    rw [List.cons_append, readFraction_point hfraction (hmark.not_isDigit hrest)]
    exact (afterFraction_eq_ok_iff hmark hrest).mpr ⟨rfl, hvalue⟩
  | absent =>
    rw [List.nil_append]
    cases hmark with
    | absent =>
      rw [List.nil_append, readFraction_finish fun b hb => (hrest b hb).2]
      exact finish_eq_ok_iff.mpr ⟨rfl, hvalue⟩
    | mark hb hsign hdigits =>
      rw [numberValue?_of_not_whole (.inr (Option.some_ne_none _))] at hvalue
      rw [List.cons_append, readFraction_mark hb, ← afterFraction_mark hb, ← List.cons_append]
      exact (afterFraction_eq_ok_iff (.mark hb hsign hdigits) hrest).mpr ⟨rfl, hvalue⟩

/-- What has been read behind the digits before the point is spelled by the rules. -/
theorem exists_fraction_of_readFraction (h : readFraction negative whole s = .ok (n, rest)) :
    ∃ point fraction mark exponent, s = point ++ (mark ++ rest) ∧
      SpellsFraction point fraction ∧ SpellsExponent mark exponent ∧
      numberValue? negative whole fraction exponent = some n := by
  by_cases hfinish : ∀ b ∈ s.head?, b ≠ 0x2E ∧ b ≠ 0x65 ∧ b ≠ 0x45
  · rw [readFraction_finish hfinish] at h
    obtain ⟨rfl, hvalue⟩ := finish_eq_ok_iff.mp h
    exact ⟨[], [], [], none, rfl, .absent, .absent, hvalue⟩
  · cases s with
    | nil => exact absurd nofun hfinish
    | cons b s =>
      by_cases hpoint : b = 0x2E
      · subst hpoint
        -- Behind the point there has to be a digit.
        match s with
        | [] => cases h
        | c :: s =>
          by_cases hc : isDigit c = true
          · obtain ⟨digits, t, hs, hdigits, hstop⟩ := exists_digits_of_isDigit hc s
            rw [hs, readFraction_point hdigits hstop] at h
            obtain ⟨mark, exponent, rfl, hmark, hvalue⟩ := exists_exponent_of_afterFraction h
            refine ⟨0x2E :: digits, digits, mark, exponent, by rw [hs]; rfl, .point hdigits,
              hmark, ?_⟩
            rw [numberValue?_of_not_whole (.inl hdigits.1)]
            exact hvalue
          · have htake : (c :: s).takeWhile isDigit = [] := List.takeWhile_cons_of_neg hc
            rw [readFraction.eq_def] at h
            dsimp only at h
            rw [if_pos rfl, htake] at h
            cases h
      · have hb : b = 0x65 ∨ b = 0x45 := by
          by_contra hb
          rw [not_or] at hb
          apply hfinish
          rintro c ⟨⟩
          exact ⟨hpoint, hb⟩
        rw [readFraction_mark hb] at h
        obtain ⟨written, value, rfl, hmark, hvalue⟩ := exists_exponent_of_readExponent hb h
        refine ⟨[], [], b :: written, some value, rfl, .absent, hmark, ?_⟩
        rw [numberValue?_of_not_whole (.inr (Option.some_ne_none _))]
        exact hvalue

/-! ## Numbers -/

/-- A number is taken from behind its sign. -/
theorem readNumber_of_spells (h : SpellsMagnitude negative written n) (hrest : Stops rest) :
    readNumber negative (written ++ rest) = .ok (n, rest) := by
  obtain @⟨whole, point, fraction, mark, exponent, _, hwhole, hpoint, hmark, hvalue⟩ := h
  have hread := readFraction_of_spells hpoint hmark hrest (amounts_iff.mp hvalue)
  -- Neither a fraction nor an exponent starts with a digit, so the digits end with the first part.
  have hstop : ∀ b ∈ (point ++ (mark ++ rest)).head?, isDigit b = false := by
    intro b hb
    cases hpoint with
    | absent => exact hmark.not_isDigit hrest b hb
    | point _ =>
      cases hb
      rfl
  obtain ⟨htake, hdrop⟩ := takeWhile_digits hwhole.1.isDigit hstop
  rw [List.append_assoc, List.append_assoc]
  obtain ⟨b, s, rfl⟩ := List.exists_cons_of_ne_nil hwhole.1.1
  rw [List.cons_append, readNumber.eq_def]
  dsimp only
  -- A leading zero is the only digit before the point.
  by_cases hzero : b = 0x30
  · obtain ⟨rfl, rfl⟩ : b = 0x30 ∧ s = [] := by
      rw [hzero] at hwhole
      exact ⟨hzero, (List.cons.inj (hwhole.2 rfl)).2⟩
    rw [if_pos rfl, List.nil_append]
    cases hcons : point ++ (mark ++ rest) with
    | nil =>
      rw [hcons] at hread
      exact hread
    | cons c t =>
      rw [hcons] at hread hstop
      dsimp only
      rw [if_neg (by simp [hstop c rfl])]
      exact hread
  · have hb : isDigit b = true := hwhole.1.isDigit b List.mem_cons_self
    rw [List.cons_append, List.takeWhile_cons_of_pos hb, List.cons.injEq] at htake
    rw [List.cons_append, List.dropWhile_cons_of_pos hb] at hdrop
    rw [if_neg hzero, if_pos hb, htake.2, hdrop]
    exact hread

/-- What has been read behind the sign of a number is spelled by the rules. -/
theorem spells_of_readNumber (h : readNumber negative s = .ok (n, rest)) :
    ∃ written, s = written ++ rest ∧ SpellsMagnitude negative written n := by
  -- Whatever the digits before the point are, the text behind them is spelled by the rules.
  have hparts : ∀ {whole t : Bytes}, s = whole ++ t → IsWholePart whole →
      readFraction negative whole t = .ok (n, rest) →
      ∃ written, s = written ++ rest ∧ SpellsMagnitude negative written n := by
    intro whole t hs hwhole hread
    obtain ⟨point, fraction, mark, exponent, rfl, hpoint, hmark, hvalue⟩ :=
      exists_fraction_of_readFraction hread
    exact ⟨_, by rw [hs, List.append_assoc, List.append_assoc], .parts hwhole hpoint hmark
      (amounts_iff.mpr hvalue)⟩
  cases s with
  | nil => cases h
  | cons b s =>
    rw [readNumber.eq_def] at h
    dsimp only at h
    by_cases hzero : b = 0x30
    · subst hzero
      have hwhole : IsWholePart [0x30] :=
        ⟨⟨List.cons_ne_nil _ _, List.forall_mem_singleton.mpr (by decide)⟩, fun _ => rfl⟩
      rw [if_pos rfl] at h
      split at h
      · split at h
        · cases h
        · exact hparts rfl hwhole h
      · exact hparts rfl hwhole h
    · rw [if_neg hzero] at h
      split at h
      · next hb =>
        have hwhole : IsWholePart (b :: s.takeWhile isDigit) := by
          refine ⟨⟨List.cons_ne_nil b _, ?_⟩, fun hhead => absurd (Option.some.inj hhead) hzero⟩
          intro c hc
          rcases List.mem_cons.mp hc with rfl | hc
          · exact isDigit_iff.mp hb
          · exact isDigit_iff.mp (List.mem_takeWhile_imp hc)
        refine hparts ?_ hwhole h
        rw [List.cons_append, List.takeWhile_append_dropWhile]
      · cases h

end MethodRoutes.Json
