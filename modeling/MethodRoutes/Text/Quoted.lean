import MethodRoutes.Text.Invisible

/-!
# Quoted text in diagnostics

A diagnostic shows a text between quotation marks. Quotation marks and backslashes inside get a
backslash, the common control characters their short form, and every other character without a
shape of its own is shown as its code point in braces.

## Main definitions

* `quoted` — a text as diagnostics show it
-/

namespace MethodRoutes.Text

/-- A character between quotation marks. -/
def quotedChar (c : Char) : List Char :=
  if c = '\x00' then ['\\', '0']
  else if c = '\t' then ['\\', 't']
  else if c = '\r' then ['\\', 'r']
  else if c = '\n' then ['\\', 'n']
  else if c = '"' || c = '\\' then ['\\', c]
  else if isInvisible c then '\\' :: 'u' :: '{' :: (Nat.toDigits 16 c.toNat ++ ['}'])
  else [c]

/-- A text between quotation marks. -/
def quoted (s : String) : String := String.ofList ('"' :: (s.toList.flatMap quotedChar ++ ['"']))

end MethodRoutes.Text
