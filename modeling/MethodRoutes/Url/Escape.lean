import MethodRoutes.Text.Utf8

/-!
# Percent escapes

Each part of a URL has a set of characters that are written as percent escapes of their UTF-8
bytes. Control characters and everything beyond ASCII are escaped in all parts.

## Main definitions

* `EscapeSet` — the escaped characters of a part
* `EscapeSet.encode` — a text with these characters escaped
* `percentDecode` — the bytes of a text with its escapes resolved
-/

namespace MethodRoutes

/-- The ASCII characters other than control characters that are escaped in a part of a URL. -/
structure EscapeSet where
  /-- These characters. -/
  marks : List Char

namespace EscapeSet

/-- Nothing but control characters and what is not ASCII. -/
def controls : EscapeSet := ⟨[]⟩

/-- The escapes of a fragment. -/
def fragment : EscapeSet := ⟨[' ', '"', '<', '>', '\x60']⟩

/-- The escapes of a query. -/
def query : EscapeSet := ⟨[' ', '"', '#', '<', '>']⟩

/-- The escapes of a query after a scheme of the web. -/
def webQuery : EscapeSet := ⟨[' ', '"', '#', '<', '>', '\'']⟩

/-- The escapes of a path. -/
def path : EscapeSet := ⟨fragment.marks ++ ['#', '?', '{', '}']⟩

/-- The escapes of a user name or password. -/
def userInfo : EscapeSet := ⟨path.marks ++ ['/', ':', ';', '=', '@', '[', '\\', ']', '^', '|']⟩

/-- Whether a character is escaped. -/
def contains (set : EscapeSet) (c : Char) : Bool :=
  c.toNat < 0x20 || 0x7F ≤ c.toNat || set.marks.contains c

/-- An uppercase hexadecimal digit. -/
def hexDigit (n : Nat) : Char :=
  if n < 10 then Char.ofNat ('0'.toNat + n) else Char.ofNat ('A'.toNat + (n - 10))

/-- The escape of a byte. -/
def escapeByte (b : UInt8) : List Char :=
  ['%', hexDigit (b.toNat / 16), hexDigit (b.toNat % 16)]

/-- A text with the characters of the set escaped. -/
def encode (set : EscapeSet) (text : List Char) : List Char :=
  text.flatMap fun c =>
    if set.contains c then (String.utf8EncodeChar c).flatMap escapeByte else [c]

end EscapeSet

/-- The value of a hexadecimal digit. -/
def hexDigitValue? (c : Char) : Option Nat :=
  if '0' ≤ c ∧ c ≤ '9' then some (c.toNat - '0'.toNat)
  else if 'a' ≤ c ∧ c ≤ 'f' then some (c.toNat - 'a'.toNat + 10)
  else if 'A' ≤ c ∧ c ≤ 'F' then some (c.toNat - 'A'.toNat + 10)
  else none

/-- The UTF-8 bytes of a text in which `%` and two hexadecimal digits stand for a byte. -/
def percentDecode : List Char → Bytes
  | [] => []
  | c :: rest =>
    if c = '%' then
      match rest with
      | a :: b :: tail =>
        match hexDigitValue? a, hexDigitValue? b with
        | some high, some low => UInt8.ofNat (16 * high + low) :: percentDecode tail
        | _, _ => 0x25 :: percentDecode (a :: b :: tail)
      | tail => 0x25 :: percentDecode tail
    else String.utf8EncodeChar c ++ percentDecode rest

end MethodRoutes
