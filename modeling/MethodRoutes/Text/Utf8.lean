/-!
# Bytes and text

## Main definitions

* `Bytes` — the content of a message
* `Bytes.ofText` — the UTF-8 form of a text
* `Bytes.text?` — the text that bytes are the UTF-8 form of
* `Bytes.textLength` — how far bytes are the UTF-8 form of a text

## Main results

* `Bytes.text?_ofText` — a text is read back from its UTF-8 form
-/

namespace MethodRoutes

/-- The content of a message. -/
abbrev Bytes := List UInt8

namespace Bytes

/-- The UTF-8 form of a text. -/
def ofText (s : String) : Bytes := s.toByteArray.data.toList

/-- The text with this UTF-8 form, if there is one. -/
def text? (b : Bytes) : Option String := String.fromUTF8? ⟨b.toArray⟩

/-- The length of the longest start that is the UTF-8 form of a text. -/
def textLength (b : Bytes) : Nat :=
  ((List.range (b.length + 1)).filter fun n => (text? (b.take n)).isSome).getLast?.getD 0

@[simp] theorem text?_ofText (s : String) : text? (ofText s) = some s := by
  simp [text?, ofText, String.fromUTF8?, String.fromUTF8, s.isValidUTF8]

end Bytes

end MethodRoutes
