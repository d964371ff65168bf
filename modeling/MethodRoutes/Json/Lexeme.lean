import MethodRoutes.Decimal.Conversion
import MethodRoutes.Json.Fault

/-!
# Words, numbers and strings of a JSON text

A reader takes bytes and gives a value and the bytes after it. The readers of this module take
the smallest parts of a text; each starts where its part starts.

## Main definitions

* `Json.Reader` — the type of readers
* `Json.skipBlanks` — pass over spaces, tabs and line ends
* `Json.readWord`, `Json.readString`, `Json.readNumber`
-/

namespace MethodRoutes.Json

/-- Takes bytes, gives a value and what is left of them. -/
abbrev Reader (α : Type) := Bytes → Except Fault (α × Bytes)

/-- Space, tab, line feed and carriage return may stand between the parts of a text. -/
def isBlank (b : UInt8) : Bool := b = 0x20 || b = 0x09 || b = 0x0A || b = 0x0D

/-- The bytes from the first one on that is not blank. -/
def skipBlanks (s : Bytes) : Bytes := s.dropWhile isBlank

/-- Read the remaining letters of `null`, `true` or `false`. -/
def readWord (word : Bytes) (s : Bytes) : Except Fault Bytes :=
  match word, s with
  | [], s => .ok s
  | _ :: _, [] => .error (.before .endInValue [])
  | w :: word, b :: s => if b = w then readWord word s else .error (.before .expectedWord s)

/-- The letters of `null` after the first. -/
def nullTail : Bytes := [0x75, 0x6C, 0x6C]

/-- The letters of `true` after the first. -/
def trueTail : Bytes := [0x72, 0x75, 0x65]

/-- The letters of `false` after the first. -/
def falseTail : Bytes := [0x61, 0x6C, 0x73, 0x65]

/-! ## Strings -/

/-- Where a reader of a string stands. -/
inductive StringState where
  /-- Between characters. -/
  | plain
  /-- After a backslash. -/
  | escape
  /-- Inside the four digits of a code unit; `high` is the first half of a pair if this is its
  second half. -/
  | unit (high : Option Nat) (digits : Bytes)
  /-- After the first half of a pair, where a backslash has to follow. -/
  | pairEscape (high : Nat)
  /-- After the first half of a pair and a backslash, where a `u` has to follow. -/
  | pairMark (high : Nat)

/-- The byte that a backslash and a single letter stand for. -/
def simpleEscape? (b : UInt8) : Option UInt8 :=
  if b = 0x22 || b = 0x5C || b = 0x2F then some b
  else if b = 0x62 then some 0x08
  else if b = 0x66 then some 0x0C
  else if b = 0x6E then some 0x0A
  else if b = 0x72 then some 0x0D
  else if b = 0x74 then some 0x09
  else none

/-- The value of a hexadecimal digit of either case. -/
def hexDigit? (b : UInt8) : Option Nat :=
  if 0x30 ≤ b && b ≤ 0x39 then some (b.toNat - 0x30)
  else if 0x41 ≤ b && b ≤ 0x46 then some (b.toNat - 0x37)
  else if 0x61 ≤ b && b ≤ 0x66 then some (b.toNat - 0x57)
  else none

/-- The value of a row of hexadecimal digits. -/
def hexValue? (digits : Bytes) : Option Nat :=
  digits.foldlM (fun n b => (hexDigit? b).map (16 * n + ·)) 0

/-- The bytes of the character with a code point, last byte first. -/
def encodedReverse (codePoint : Nat) : Bytes :=
  (String.utf8EncodeChar (Char.ofNat codePoint)).reverse

/-- Whether a code unit is the first half of a pair. -/
def isHighHalf (n : Nat) : Bool := 0xD800 ≤ n && n ≤ 0xDBFF

/-- Whether a code unit is the second half of a pair. -/
def isLowHalf (n : Nat) : Bool := 0xDC00 ≤ n && n ≤ 0xDFFF

/-- The code point of a pair of halves. -/
def joinHalves (high low : Nat) : Nat := (high - 0xD800) * 0x400 + (low - 0xDC00) + 0x10000

/-- Read the bytes of a string from inside of its quotation marks; `content` is what it denotes so
far, last byte first. A fault lies after the byte that shows it. -/
def readStringFrom (state : StringState) (content : Bytes) : Reader Bytes
  | [] => .error (.before .endInString [])
  | b :: s =>
    match state with
    | .plain =>
      if b = 0x22 then .ok (content.reverse, s)
      else if b = 0x5C then readStringFrom .escape content s
      else if b < 0x20 then .error (.before .controlCharacter s)
      -- Whether these bytes are text is asked only at the closing quotation mark.
      else readStringFrom .plain (b :: content) s
    | .escape =>
      match simpleEscape? b with
      | some c => readStringFrom .plain (c :: content) s
      | none =>
        if b = 0x75 then readStringFrom (.unit none []) content s
        else .error (.before .invalidEscape s)
    | .unit high digits =>
      let digits := digits ++ [b]
      -- Four bytes are taken before any of them is looked at.
      if digits.length < 4 then readStringFrom (.unit high digits) content s
      else
        match hexValue? digits, high with
        | none, _ => .error (.before .invalidEscape s)
        | some n, none =>
          if isLowHalf n then .error (.before .loneSurrogate s)
          else if isHighHalf n then readStringFrom (.pairEscape n) content s
          else readStringFrom .plain (encodedReverse n ++ content) s
        | some n, some h =>
          if isLowHalf n then readStringFrom .plain (encodedReverse (joinHalves h n) ++ content) s
          else .error (.before .loneSurrogate s)
    | .pairEscape high =>
      if b = 0x5C then readStringFrom (.pairMark high) content s
      else .error (.before .unfinishedSurrogatePair s)
    | .pairMark high =>
      if b = 0x75 then readStringFrom (.unit (some high) []) content s
      else .error (.before .unfinishedSurrogatePair s)

/-- Read a string after its opening quotation mark. What it denotes has to be text, and if it is
not, the fault lies upon the first byte that is part of no character. -/
def readString : Reader String := fun s =>
  match readStringFrom .plain [] s with
  | .error fault => .error fault
  | .ok (content, rest) =>
    match Bytes.text? content with
    | some text => .ok (text, rest)
    | none =>
      let raw := s.take (s.length - rest.length)
      .error (.upon .invalidCodePoint (s.drop (Bytes.textLength raw)))

/-! ## Numbers -/

/-- Whether a byte is a decimal digit. -/
def isDigit (b : UInt8) : Bool := 0x30 ≤ b && b ≤ 0x39

/-- The value of a row of decimal digits. -/
def digitsValue (digits : Bytes) : Nat :=
  digits.foldl (fun n b => 10 * n + (b.toNat - 0x30)) 0

/-- The number of values of a machine word, `2 ^ 64`. -/
def wordBound : Nat := 0x10000000000000000

/-- The whole number of a row of digits: exact from `-2 ^ 63` to `2 ^ 64 - 1`, except that a
negative zero is a floating-point number, like everything out of that range. -/
def wholeNumber? (negative : Bool) (n : Nat) : Option Int :=
  if negative then if 0 < n ∧ 2 * n ≤ wordBound then some (-n) else none
  else if n < wordBound then some n else none

/-- Take digits behind a number as long as it fits in a machine word with them. Gives the number,
and how many digits have been left out. -/
def gatherDigits (n : Nat) : Bytes → Nat × Nat
  | [] => (n, 0)
  | b :: s =>
    let next := 10 * n + (b.toNat - 0x30)
    if wordBound ≤ next then (n, s.length + 1) else gatherDigits next s

/-- The decimal of the digits before and behind a point, as far as they fit in a machine word. Of
the digits before the point those that are left out count for the exponent, and the digits behind it
are tried all the same. -/
def decimalOf (whole fraction : Bytes) : Decimal :=
  let (n, left) := gatherDigits 0 whole
  let (n, leftBehind) := gatherDigits n fraction
  ⟨n, left + leftBehind - fraction.length⟩

/-- A floating-point number; `s` is what follows it. -/
def floatNumber (negative : Bool) (d : Decimal) (s : Bytes) : Except Fault (Number × Bytes) :=
  match d.toFloat? with
  | some x => .ok (.float (if negative then -x else x), s)
  | none => .error (.before .numberOutOfRange s)

/-- Exponents are machine integers of 32 bits; the first value above them, `2 ^ 31`. -/
def exponentBound : Nat := 0x80000000

/-- Pass over digits until their value reaches the bound for exponents. -/
def dropToBound (value : Nat) : Bytes → Bytes
  | [] => []
  | b :: s =>
    let value := 10 * value + (b.toNat - 0x30)
    if exponentBound ≤ value then s else dropToBound value s

/-- Read a number from behind the `e` that starts its exponent. A positive exponent beyond the
bound is out of range at the digit that takes it there, unless the number is zero. -/
def readExponent (negative : Bool) (d : Decimal) (s : Bytes) : Except Fault (Number × Bytes) :=
  let (down, s) := match s with
    | b :: r => if b = 0x2D then (true, r) else if b = 0x2B then (false, r) else (false, s)
    | [] => (false, s)
  match s with
  | [] => .error (.before .endInValue [])
  | b :: r =>
    if isDigit b then
      let exponent := digitsValue (s.takeWhile isDigit)
      if exponentBound ≤ exponent ∧ !down ∧ d.digits ≠ 0 then
        .error (.before .numberOutOfRange (dropToBound 0 s))
      else
        let shift : Int := if down then -exponent else exponent
        floatNumber negative ⟨d.digits, d.exponent + shift⟩ (s.dropWhile isDigit)
    else .error (.before .invalidNumber r)

/-- Read a number from behind the digits before its point. -/
def readFraction (negative : Bool) (whole : Bytes) (s : Bytes) : Except Fault (Number × Bytes) :=
  match s with
  | [] => finish s
  | b :: r =>
    if b = 0x2E then
      -- A point has to be followed by a digit.
      match r.takeWhile isDigit with
      | [] => match r with
        | [] => .error (.upon .endInValue [])
        | _ => .error (.upon .invalidNumber r)
      | fraction =>
        let d := decimalOf whole fraction
        match r.dropWhile isDigit with
        | [] => floatNumber negative d []
        | c :: t =>
          if c = 0x65 || c = 0x45 then readExponent negative d t
          else floatNumber negative d (c :: t)
    else if b = 0x65 || b = 0x45 then readExponent negative (decimalOf whole []) r
    else finish s
where
  /-- The number has neither fraction nor exponent. -/
  finish (s : Bytes) : Except Fault (Number × Bytes) :=
    match wholeNumber? negative (digitsValue whole) with
    | some n => .ok (.integer n, s)
    | none => floatNumber negative (decimalOf whole []) s

/-- Read a number after its sign. Digits before the point have no leading zero. -/
def readNumber (negative : Bool) : Reader Number
  | [] => .error (.before .endInValue [])
  | b :: s =>
    if b = 0x30 then
      match s with
      | c :: _ => if isDigit c then .error (.upon .invalidNumber s) else readFraction negative [b] s
      | [] => readFraction negative [b] s
    else if isDigit b then
      readFraction negative (b :: s.takeWhile isDigit) (s.dropWhile isDigit)
    else .error (.before .invalidNumber s)

end MethodRoutes.Json
