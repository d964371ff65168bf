import MethodRoutes.Decimal.Shortest
import MethodRoutes.Json.Value

/-!
# The text of a JSON value

Values are written without blanks. A string escapes the quotation mark, the backslash and the
characters below U+0020, and nothing else.

## Main definitions

* `Json.FloatLayout`, `Json.floatLayout` — how the digits of a number are laid out
* `Json.Value.render` — the text of a value
-/

namespace MethodRoutes.Json

/-- How a floating-point number is laid out, given its shortest digits. -/
structure FloatLayout where
  /-- The least decimal exponent of the leading digit that is written positionally. -/
  leastPositional : Int
  /-- The greatest decimal exponent of the leading digit that is written positionally. -/
  greatestPositional : Int
  /-- What stands before a positive exponent. -/
  plusSign : List Char

/-- Numbers from `1e-5` up to `1e16` are positional, with a fraction of at least one digit;
others have an exponent with its sign. -/
def floatLayout : FloatLayout := ⟨-5, 15, ['+']⟩

/-- Decimal digits laid out positionally: `digits` with the point after the first `point` of
them, where `point` may be negative or beyond the last digit. -/
def positional (digits : List Char) (point : Int) : List Char :=
  if point ≤ 0 then
    '0' :: '.' :: (List.replicate (-point).toNat '0' ++ digits)
  else if (digits.length : Int) ≤ point then
    digits ++ List.replicate (point - digits.length).toNat '0' ++ ['.', '0']
  else
    digits.take point.toNat ++ '.' :: digits.drop point.toNat

/-- Decimal digits with one digit before the point and an exponent. -/
def scientific (layout : FloatLayout) (digits : List Char) (exponent : Int) : List Char :=
  digits.take 1 ++ (if digits.length = 1 then [] else '.' :: digits.drop 1) ++
    'e' :: ((if exponent < 0 then [] else layout.plusSign) ++ (toString exponent).toList)

/-- The text of a finite binary64 number. -/
def renderFloat (layout : FloatLayout) (x : Float) : List Char :=
  let sign : List Char := if x.toBits >>> 63 = 1 then ['-'] else []
  let d := (Binary.ofBits x.toBits).shortest
  let digits := (toString d.digits).toList
  if d.digits = 0 then sign ++ ['0', '.', '0']
  else
    let exponent := d.exponent + digits.length - 1
    if layout.leastPositional ≤ exponent ∧ exponent ≤ layout.greatestPositional then
      sign ++ positional digits (exponent + 1)
    else sign ++ scientific layout digits exponent

/-- The text of a number. -/
def Number.render : Number → List Char
  | .integer n => (toString n).toList
  | .float x => renderFloat floatLayout x

/-- A lowercase hexadecimal digit. -/
def hexDigit (n : Nat) : Char :=
  if n < 10 then Char.ofNat ('0'.toNat + n) else Char.ofNat ('a'.toNat + (n - 10))

/-- A character inside a quoted string. -/
def escapeChar (c : Char) : List Char :=
  if c = '"' then ['\\', '"']
  else if c = '\\' then ['\\', '\\']
  else if c = '\x08' then ['\\', 'b']
  else if c = '\x0c' then ['\\', 'f']
  else if c = '\n' then ['\\', 'n']
  else if c = '\r' then ['\\', 'r']
  else if c = '\t' then ['\\', 't']
  else if c.toNat < 0x20 then
    ['\\', 'u', '0', '0', hexDigit (c.toNat / 16), hexDigit (c.toNat % 16)]
  else [c]

/-- A quoted string. -/
def renderString (s : String) : List Char := '"' :: (s.toList.flatMap escapeChar ++ ['"'])

namespace Value

mutual

/-- The characters of a value's text. -/
def chars : Value → List Char
  | null => ['n', 'u', 'l', 'l']
  | bool true => ['t', 'r', 'u', 'e']
  | bool false => ['f', 'a', 'l', 's', 'e']
  | number n => n.render
  | string s => renderString s
  | array [] => ['[', ']']
  | array (v :: rest) => '[' :: (chars v ++ itemsChars rest)
  | object [] => ['{', '}']
  | object ((k, v) :: rest) => '{' :: (renderString k ++ ':' :: (chars v ++ fieldsChars rest))

/-- The characters after an item of an array, up to its end. -/
def itemsChars : List Value → List Char
  | [] => [']']
  | v :: rest => ',' :: (chars v ++ itemsChars rest)

/-- The characters after a field of an object, up to its end. -/
def fieldsChars : List (String × Value) → List Char
  | [] => ['}']
  | (k, v) :: rest => ',' :: (renderString k ++ ':' :: (chars v ++ fieldsChars rest))

end

/-- The text of a value. -/
def render (v : Value) : String := String.ofList v.chars

end Value

end MethodRoutes.Json
