/-!
# Punycode

A label with characters beyond ASCII has a form in ASCII: its ASCII characters, and then, as
numbers in a base of 36 with digits of varying weight, where the other characters go in. The code
points come in ascending order, each one as its distance from the one before.

## Main definitions

* `Punycode.encode` — the ASCII form of a label
* `Punycode.decode?` — the label with an ASCII form
-/

namespace MethodRoutes.Domain.Punycode

/-- How many values the digit at a place leaves for a number that ends there. -/
def threshold (bias place : Nat) : Nat :=
  if place ≤ bias + 1 then 1 else if bias + 26 ≤ place then 26 else place - bias

/-- Scale a distance down; `bias` counts the steps. -/
def scaleDown (delta bias : Nat) : Nat :=
  if h : 455 < delta then scaleDown (delta / 35) (bias + 36)
  else bias + 36 * delta / (delta + 38)
termination_by delta
decreasing_by omega

/-- The bias after a number, which fits the next one to its expected size. -/
def adapt (delta count : Nat) (first : Bool) : Nat :=
  let delta := if first then delta / 700 else delta / 2
  scaleDown (delta + delta / count) 0

/-- The letter or digit for a value below 36. -/
def digit (value : Nat) : Char :=
  if value < 26 then Char.ofNat ('a'.toNat + value) else Char.ofNat ('0'.toNat + (value - 26))

/-- The value of a letter or digit. -/
def value? (c : Char) : Option Nat :=
  if 'a' ≤ c ∧ c ≤ 'z' then some (c.toNat - 'a'.toNat)
  else if 'A' ≤ c ∧ c ≤ 'Z' then some (c.toNat - 'A'.toNat)
  else if '0' ≤ c ∧ c ≤ '9' then some (c.toNat - '0'.toNat + 26)
  else none

/-- The digits of a number, least weight first, from a place on. -/
def digits (bias place n : Nat) : Nat → List Char
  | 0 => []
  | fuel + 1 =>
    let t := threshold bias place
    if n < t then [digit n]
    else
      digit (t + (n - t) % (36 - t)) :: digits bias (place + 36) ((n - t) / (36 - t)) fuel

/-- What the encoder carries along. -/
structure Encoder where
  /-- The distance since the last number. -/
  delta : Nat
  /-- The current bias. -/
  bias : Nat
  /-- How many characters have been placed. -/
  placed : Nat
  /-- The digits so far. -/
  output : List Char

/-- Go past a character on the way through the label, writing a number where `point` stands. -/
def Encoder.pass (basic point : Nat) (e : Encoder) (c : Nat) : Encoder :=
  if c < point then { e with delta := e.delta + 1 }
  else if c = point then
    { delta := 0
      bias := adapt e.delta (e.placed + 1) (e.placed = basic)
      placed := e.placed + 1
      output := e.output ++ digits e.bias 36 e.delta (e.delta + 1) }
  else e

/-- Write the code points of the label from `point` on, one value in each step. -/
def encodeFrom (label : List Nat) (basic point : Nat) (e : Encoder) : Nat → List Char
  | 0 => e.output
  | fuel + 1 =>
    match (label.filter (point ≤ ·)).min? with
    | none => e.output
    | some next =>
      let e := { e with delta := e.delta + (next - point) * (e.placed + 1) }
      let e := label.foldl (Encoder.pass basic next) e
      encodeFrom label basic (next + 1) { e with delta := e.delta + 1 } fuel

/-- The ASCII form of a label, without a mark that it is one. -/
def encode (label : List Char) : List Char :=
  let basic := label.filter (·.toNat < 0x80)
  let start := if basic.isEmpty then [] else basic ++ ['-']
  start ++ encodeFrom (label.map Char.toNat) basic.length 0x80 ⟨0, 72, basic.length, []⟩
    (label.length + 1)

/-- The number at the start of a text, times a weight and added to `sum`, and what follows it. -/
def readNumber? (bias place sum weight : Nat) : List Char → Option (Nat × List Char)
  | [] => none
  | c :: rest =>
    match value? c with
    | none => none
    | some v =>
      let t := threshold bias place
      if v < t then some (sum + v * weight, rest)
      else readNumber? bias (place + 36) (sum + v * weight) (weight * (36 - t)) rest

/-- Put the characters that a text of numbers describes into a label. -/
def decodeFrom? (label : List Nat) (point index bias : Nat) : Nat → List Char → Option (List Nat)
  | _, [] => some label
  | 0, _ => none
  | fuel + 1, text =>
    match readNumber? bias 36 index 1 text with
    | none => none
    | some (sum, rest) =>
      let count := label.length + 1
      let next := point + sum / count
      let place := sum % count
      if next.isValidChar then
        decodeFrom? (label.take place ++ next :: label.drop place) next (place + 1)
          (adapt (sum - index) count (index = 0)) fuel rest
      else none

/-- The label with an ASCII form, if the text is one. -/
def decode? (text : List Char) : Option (List Char) :=
  let after := (text.reverse.takeWhile (· ≠ '-')).reverse
  let before := text.take (text.length - after.length - 1)
  let numbers := if before.isEmpty then text else after
  if before.all (·.toNat < 0x80) then
    (decodeFrom? (before.map Char.toNat) 0x80 0 72 numbers.length numbers).map
      (·.map Char.ofNat)
  else none

end MethodRoutes.Domain.Punycode
