/-!
# The shortest decimal of a floating-point number

A finite binary64 number stands for an interval: all reals that round to it. Of the decimals in
that interval the shortest are those with the fewest digits, and among them the one nearest to
the number is chosen, an even last digit deciding a tie.

The search runs over ever finer decimal grids and looks at the two neighbours of the number on
each of them, in exact arithmetic on natural numbers.

## Main definitions

* `Binary` — a finite number as `mantissa * 2 ^ exponent`
* `Decimal` — a number as `digits * 10 ^ exponent`
* `Binary.readsBack` — whether a decimal lies in the interval of a number
* `Binary.shortest` — the decimal described above
-/

namespace MethodRoutes

/-- The absolute value of a finite binary64 number, `mantissa * 2 ^ exponent`. -/
structure Binary where
  /-- The significant bits. -/
  mantissa : Nat
  /-- The power of two. -/
  exponent : Int
  /-- The neighbour below is half as far away as the neighbour above. -/
  narrowBelow : Bool
  deriving DecidableEq, Repr

/-- The decimal number `digits * 10 ^ exponent`. -/
structure Decimal where
  /-- The significant digits, read as one number. -/
  digits : Nat
  /-- The power of ten. -/
  exponent : Int
  deriving DecidableEq, Repr

namespace Binary

/-- The absolute value that the bits of a finite number stand for. -/
def ofBits (bits : UInt64) : Binary :=
  let power := ((bits >>> 52) &&& 0x7FF).toNat
  let fraction := (bits &&& 0xFFFFFFFFFFFFF).toNat
  if power = 0 then ⟨fraction, -1074, false⟩
  else ⟨0x10000000000000 + fraction, (power : Int) - 1075, fraction = 0 && power > 1⟩

/-- Compare `a * 10 ^ i` with `n * 2 ^ j`. -/
def compareScaled (a : Nat) (i : Int) (n : Nat) (j : Int) : Ordering :=
  compare (a * Nat.pow 10 i.toNat * Nat.pow 2 (-j).toNat)
    (n * Nat.pow 2 j.toNat * Nat.pow 10 (-i).toNat)

/-- Whether a decimal rounds to the number: it lies between the midpoints to the two neighbours,
and it may be such a midpoint exactly when the mantissa is even. -/
def readsBack (x : Binary) (d : Decimal) : Bool :=
  let low := if x.narrowBelow then 4 * x.mantissa - 1 else 4 * x.mantissa - 2
  let high := 4 * x.mantissa + 2
  let closed := x.mantissa % 2 = 0
  let atLow := compareScaled d.digits d.exponent low (x.exponent - 2)
  let atHigh := compareScaled d.digits d.exponent high (x.exponent - 2)
  (atLow = .gt || (closed && atLow = .eq)) && (atHigh = .lt || (closed && atHigh = .eq))

/-- The largest multiple of `10 ^ k` that is not above the number, divided by `10 ^ k`. -/
def floorOn (x : Binary) (k : Int) : Nat :=
  (x.mantissa * Nat.pow 2 x.exponent.toNat * Nat.pow 10 (-k).toNat) /
    (Nat.pow 2 (-x.exponent).toNat * Nat.pow 10 k.toNat)

/-- The better of the neighbours `a` and `a + 1` on the grid of `10 ^ k`, if one reads back. -/
def neighbourOn (x : Binary) (k : Int) : Option Decimal :=
  let a := x.floorOn k
  let below : Decimal := ⟨a, k⟩
  let above : Decimal := ⟨a + 1, k⟩
  match x.readsBack below, x.readsBack above with
  | true, false => some below
  | false, true => some above
  | false, false => none
  -- Twice the middle between the neighbours against twice the number.
  | true, true =>
    match compareScaled (2 * a + 1) k (2 * x.mantissa) x.exponent with
    | .gt => some below
    | .lt => some above
    | .eq => if a % 2 = 0 then some below else some above

/-- A power of ten above the number. -/
def scale (x : Binary) : Int :=
  ((x.mantissa.log2 : Int) + x.exponent + 1) * 30103 / 100000 + 2

/-- Search `steps` grids, from the one of `10 ^ k` to finer ones. -/
def search (x : Binary) (k : Int) : Nat → Option Decimal
  | 0 => none
  | steps + 1 => x.neighbourOn k <|> search x (k - 1) steps

/-- Move trailing zeros of the digits into the power of ten. -/
def stripZeros (d : Decimal) : Nat → Decimal
  | 0 => d
  | steps + 1 =>
    if d.digits % 10 = 0 ∧ d.digits ≠ 0 then stripZeros ⟨d.digits / 10, d.exponent + 1⟩ steps else d

/-- The exact decimal value. -/
def exact (x : Binary) : Decimal :=
  if x.exponent < 0 then ⟨x.mantissa * Nat.pow 5 (-x.exponent).toNat, x.exponent⟩
  else ⟨x.mantissa * Nat.pow 2 x.exponent.toNat, 0⟩

/-- The shortest decimal that reads back as the number, and the nearest of those. -/
def shortest (x : Binary) : Decimal :=
  if x.mantissa = 0 then ⟨0, 0⟩
  else stripZeros ((x.search x.scale 20).getD x.exact) 20

end Binary

end MethodRoutes
