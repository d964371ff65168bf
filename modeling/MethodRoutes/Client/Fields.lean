import MethodRoutes.Http.Message

/-!
# Header fields on the wire

On the wire the case of a header's name does not matter. Names and values are checked before
anything is sent.

## Main definitions

* `Fields` — field values by lowercase name
* `Fields.ofHeaders` — the fields of headers, unless one of them is malformed
* `Fields.withDefaults` — fields, and defaults for the names that are not among them
* `collectFields` — the headers that a response's fields amount to
-/

namespace MethodRoutes

/-- Field values by name, where names are in lowercase. -/
abbrev Fields := Table String String

/-- Why a header cannot be sent. -/
inductive FieldError where
  /-- The name is no token. -/
  | invalidName
  /-- The value has a control character. -/
  | invalidValue
  deriving DecidableEq, Repr

/-- What is wrong with the header. -/
def FieldError.reason : FieldError → String
  | invalidName => "invalid HTTP header name"
  | invalidValue => "failed to parse header value"

/-- The wording of the error. -/
def FieldError.message : FieldError → String
  | invalidName => "Invalid header name: " ++ invalidName.reason
  | invalidValue => "Invalid header value: " ++ invalidValue.reason

/-- A field name is a token of fewer than `2 ^ 16` characters. -/
def isFieldName (name : String) : Bool := Verb.isToken name && name.length < 0x10000

/-- A field value has no control characters except for tabs. -/
def isFieldValue (value : String) : Bool :=
  value.toList.all fun c => c = '\t' || (0x20 ≤ c.toNat && c.toNat ≠ 0x7F)

/-- A text with its ASCII letters in lowercase. -/
def lowercase (s : String) : String := String.ofList (s.toList.map Char.toLower)

namespace Fields

/-- Add a header to fields; an earlier one whose name differs at most in case is replaced. -/
def add (fields : Fields) (header : String × String) : Except FieldError Fields :=
  if !isFieldName header.1 then .error .invalidName
  else if !isFieldValue header.2 then .error .invalidValue
  else .ok (fields.insert (lowercase header.1) header.2)

/-- The fields of headers that are visited in the order of a list. -/
def ofEntries (entries : List (String × String)) : Except FieldError Fields :=
  entries.foldlM add .empty

/-- The fields of headers. -/
def ofHeaders (headers : Headers) : Except FieldError Fields := ofEntries headers.entries

/-- Add the defaults whose names are not among the fields. -/
def withDefaults (fields defaults : Fields) : Fields :=
  defaults.entries.foldl
    (fun acc e => if fields.contains e.1 then acc else acc.insert e.1 e.2) fields

end Fields

/-- Whether a byte of a field value is visible ASCII, a space or a tab. -/
def isTextByte (b : UInt8) : Bool := b = 0x09 || (0x20 ≤ b && b < 0x7F)

/-- The text of a field value, if it is one. -/
def fieldText? (value : Bytes) : Option String :=
  if value.all isTextByte then Bytes.text? value else none

/-- The headers that fields amount to, given in order of arrival: names in lowercase, and the
texts among the values of a name joined by commas. A name without such a value is left out. -/
def collectFields (fields : List (String × Bytes)) : Headers :=
  fields.foldl (fun acc field =>
    match fieldText? field.2 with
    | none => acc
    | some text =>
      let name := lowercase field.1
      match acc.get? name with
      | none => acc.insert name text
      | some earlier => acc.insert name (earlier ++ ", " ++ text)) .empty

end MethodRoutes
