import MethodRoutes.Decimal.Conversion

/-!
# What a decimal is converted to

The conversion of a decimal is stated here as rules. Each of them says what one operation on
floating-point numbers gives, and when it is the one to be carried out. An exponent for which there
is a power of ten takes a single operation, and a zero takes none. A number that is divided by more
than the greatest power is divided by that one first.

## Main definitions

* `Scales` — what comes of a number that is multiplied by a power of ten

## Main results

* `Decimal.toFloat?_eq_some_iff` — the conversion and the rules
-/

namespace MethodRoutes

/-- What comes of a floating-point number that is multiplied by ten to an exponent, if this is
finite. -/
inductive Scales : Float → Int → Float → Prop
  /-- The number is multiplied by a power of ten. -/
  | up {x : Float} {n : Nat} (small : n ≤ 308)
    (finite : (x * .ofScientific 1 false n).isInf = false) :
    Scales x n (x * .ofScientific 1 false n)
  /-- The number is divided by a power of ten. -/
  | down {x : Float} {n : Nat} (pos : 0 < n) (small : n ≤ 308) :
    Scales x (-n) (x / .ofScientific 1 false n)
  /-- Zero is left as it is. -/
  | zero {x : Float} {e : Int} (great : 308 < e.natAbs) (zero : (x == 0) = true) : Scales x e x
  /-- The number is divided by the greatest power of ten, and then by the rest. -/
  | further {x y : Float} {n : Nat} (pos : 0 < n) (nonzero : (x == 0) = false)
    (rest : Scales (x / .ofScientific 1 false 308) (-n) y) : Scales x (-(n + 308)) y

namespace Decimal

variable {x y : Float} {n : Nat} {e : Int}

theorem scaleDown_of_le (h : n ≤ 308) : scaleDown x n = x / .ofScientific 1 false n := by
  rw [scaleDown, greatestPower, if_pos h, powerOfTen]

theorem scaleDown_zero (hn : 308 < n) (hx : (x == 0) = true) : scaleDown x n = x := by
  rw [scaleDown, greatestPower, if_neg (Nat.not_le.mpr hn), if_pos hx]

theorem scaleDown_add (hn : 0 < n) (hx : (x == 0) = false) :
    scaleDown x (n + 308) = scaleDown (x / .ofScientific 1 false 308) n := by
  have hgreat : ¬ n + 308 ≤ 308 := by omega
  rw [scaleDown, greatestPower, if_neg hgreat, hx, if_neg Bool.false_ne_true, Nat.add_sub_cancel,
    powerOfTen]

theorem scaleDown_of_scales (h : Scales x e y) (hn : 0 < n) (he : e = -n) : scaleDown x n = y := by
  induction h generalizing n with
  | up => omega
  | @down x m pos small =>
    obtain rfl : n = m := by omega
    exact scaleDown_of_le small
  | zero great hx => exact scaleDown_zero (by omega) hx
  | @further x y m pos hx _ ih =>
    obtain rfl : n = m + 308 := by omega
    rw [scaleDown_add pos hx]
    exact ih pos rfl

theorem scales_scaleDown (x : Float) (hn : 0 < n) : Scales x (-n) (scaleDown x n) := by
  induction n using Nat.strongRecOn generalizing x with
  | _ n ih =>
    by_cases hsmall : n ≤ 308
    · rw [scaleDown_of_le hsmall]
      exact .down hn hsmall
    · cases hx : x == 0 with
      | true =>
        rw [scaleDown_zero (by omega) hx]
        exact .zero (by omega) hx
      | false =>
        -- One division takes off 308 from the exponent.
        obtain ⟨m, rfl⟩ : ∃ m, n = m + 308 := ⟨n - 308, by omega⟩
        rw [scaleDown_add (by omega) hx]
        exact .further (by omega) hx (ih m (by omega) _ (by omega))

theorem scaleUp?_eq_some_iff : scaleUp? x n = some y ↔ Scales x n y := by
  rw [scaleUp?, greatestPower, powerOfTen]
  constructor
  · intro h
    split at h
    · next hsmall =>
      dsimp only at h
      split at h
      · cases h
      · next hfinite =>
        cases h
        exact .up hsmall (Bool.eq_false_iff.mpr hfinite)
    · next hsmall =>
      split at h
      · next hx =>
        cases h
        exact .zero (Nat.not_le.mp hsmall) hx
      · cases h
  · intro h
    generalize he : (n : Int) = e at h
    cases h with
    | @up _ m small finite =>
      obtain rfl : n = m := by omega
      rw [if_pos small]
      exact if_neg (Bool.eq_false_iff.mp finite)
    | down pos => omega
    | zero great hx =>
      have hgreat : ¬ n ≤ 308 := by omega
      rw [if_neg hgreat, if_pos hx]
    | further => omega

/-- A decimal is converted to what the rules say. -/
theorem toFloat?_eq_some_iff {d : Decimal} :
    d.toFloat? = some y ↔ Scales d.digits.toUInt64.toFloat d.exponent y := by
  rw [toFloat?]
  by_cases hneg : d.exponent < 0
  · have he : d.exponent = -(d.exponent.natAbs : Int) := by omega
    have hn : 0 < d.exponent.natAbs := by omega
    rw [if_pos hneg, Option.some.injEq]
    constructor
    · rintro rfl
      rw [he, Int.natAbs_neg, Int.natAbs_natCast]
      exact scales_scaleDown _ hn
    · exact fun h => scaleDown_of_scales h hn he
  · have he : (d.exponent.natAbs : Int) = d.exponent := by omega
    rw [if_neg hneg, scaleUp?_eq_some_iff, he]

end Decimal

end MethodRoutes
