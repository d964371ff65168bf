import MethodRoutes.Json.Render
import MethodRoutes.Text.Quoted
import MethodRoutes.Text.Utf8

/-!
# What can be wrong with a JSON text

A text may break the grammar, or it may hold something else than the reader wanted. Either way
the fault has a position: how much of the text had been read when it was noticed.

## Main definitions

* `Json.SyntaxError` — the ways to break the grammar
* `Json.Found`, `Json.Mismatch` — the ways to differ from what was wanted
* `Json.Fault` — a cause, and the bytes that were still unread
* `Json.Position.ofRest` — the line and column of a fault
-/

namespace MethodRoutes.Json

/-- The ways in which a text can break the grammar. -/
inductive SyntaxError where
  | endInList
  | endInObject
  | endInString
  | endInValue
  | expectedColon
  | expectedListCommaOrEnd
  | expectedObjectCommaOrEnd
  | expectedWord
  | expectedValue
  | invalidEscape
  | invalidNumber
  | numberOutOfRange
  | invalidCodePoint
  | controlCharacter
  | keyMustBeString
  | loneSurrogate
  | unfinishedSurrogatePair
  | trailingComma
  | trailingCharacters
  | recursionLimit
  deriving DecidableEq, Repr

/-- The wording of a grammar error. -/
def SyntaxError.message : SyntaxError → String
  | endInList => "EOF while parsing a list"
  | endInObject => "EOF while parsing an object"
  | endInString => "EOF while parsing a string"
  | endInValue => "EOF while parsing a value"
  | expectedColon => "expected `:`"
  | expectedListCommaOrEnd => "expected `,` or `]`"
  | expectedObjectCommaOrEnd => "expected `,` or `\x7d`"
  | expectedWord => "expected ident"
  | expectedValue => "expected value"
  | invalidEscape => "invalid escape"
  | invalidNumber => "invalid number"
  | numberOutOfRange => "number out of range"
  | invalidCodePoint => "invalid unicode code point"
  | controlCharacter => "control character (\\u0000-\\u001F) found while parsing a string"
  | keyMustBeString => "key must be a string"
  | loneSurrogate => "lone leading surrogate in hex escape"
  | unfinishedSurrogatePair => "unexpected end of hex escape"
  | trailingComma => "trailing comma"
  | trailingCharacters => "trailing characters"
  | recursionLimit => "recursion limit exceeded"

/-- What stands where something else was wanted. -/
inductive Found where
  | null
  | bool (value : Bool)
  | number (value : Number)
  | string (value : String)
  | list
  | object
  /-- A bare name where a name with content was wanted. -/
  | bareName

/-- The wording for what was found. -/
def Found.message : Found → String
  | null => "null"
  | bool b => "boolean `" ++ toString b ++ "`"
  | number (.integer n) => "integer `" ++ toString n ++ "`"
  | number (.float x) => "floating point `" ++ String.ofList (Number.float x).render ++ "`"
  | string s => "string " ++ Text.quoted s
  | list => "sequence"
  | object => "map"
  | bareName => "unit variant"

/-- What a value is, when something else was wanted. -/
def Found.ofValue : Value → Found
  | .null => .null
  | .bool b => .bool b
  | .number n => .number n
  | .string s => .string s
  | .array _ => .list
  | .object _ => .object

/-- The ways in which a value can differ from what was wanted. -/
inductive Mismatch where
  /-- A value of another kind. -/
  | invalidType (found : Found) (expected : String)
  /-- A value of the right kind that is not admitted. -/
  | invalidValue (found : Found) (expected : String)
  /-- A list with too few or too many items. -/
  | invalidLength (length : Nat) (expected : String)
  /-- A record without one of its fields. -/
  | missingField (name : String)
  /-- A record with a field twice. -/
  | duplicateField (name : String)
  /-- A name that is none of the admitted ones. -/
  | unknownName (name : String) (admitted : List String)

/-- The admitted names as diagnostics list them. -/
def Mismatch.listing : List String → String
  | [a] => "`" ++ a ++ "`"
  | [a, b] => "`" ++ a ++ "` or `" ++ b ++ "`"
  | names => "one of " ++ ", ".intercalate (names.map fun a => "`" ++ a ++ "`")

/-- The wording of a mismatch. -/
def Mismatch.message : Mismatch → String
  | invalidType found expected => "invalid type: " ++ found.message ++ ", expected " ++ expected
  | invalidValue found expected => "invalid value: " ++ found.message ++ ", expected " ++ expected
  | invalidLength length expected =>
    "invalid length " ++ toString length ++ ", expected " ++ expected
  | missingField name => "missing field `" ++ name ++ "`"
  | duplicateField name => "duplicate field `" ++ name ++ "`"
  | unknownName name admitted =>
    "unknown variant `" ++ name ++ "`, expected " ++ listing admitted

/-- Why a text cannot be read as what was wanted. -/
inductive Cause where
  | malformed (error : SyntaxError)
  | mismatch (mismatch : Mismatch)

/-- The wording of a cause. -/
def Cause.message : Cause → String
  | malformed e => e.message
  | mismatch m => m.message

/-- A cause together with what was still unread. The position is provisional until the reader of
the value that it lies in has come to its end; then the fault is settled. -/
structure Fault where
  /-- What is wrong. -/
  cause : Cause
  /-- What is still unread at the position of the fault. -/
  rest : Bytes
  /-- Whether the position is final. -/
  settled : Bool

namespace Fault

/-- The grammar is broken just before `rest`. -/
def before (error : SyntaxError) (rest : Bytes) : Fault := ⟨.malformed error, rest, true⟩

/-- The grammar is broken by the first byte of `rest`, if there is one. -/
def upon (error : SyntaxError) (rest : Bytes) : Fault := ⟨.malformed error, rest.drop 1, true⟩

/-- Something else was wanted than what ends just before `rest`. -/
def differs (m : Mismatch) (rest : Bytes) : Fault := ⟨.mismatch m, rest, true⟩

/-- Fix the position of a fault that has none yet, given how far reading could go on. -/
def settle (fault : Fault) (skip : Bytes → Bytes) : Fault :=
  if fault.settled then fault else ⟨fault.cause, skip fault.rest, true⟩

end Fault

/-- A place in a text: lines count from one, and the column is the number of bytes read in the
line. -/
structure Position where
  line : Nat
  column : Nat
  deriving DecidableEq, Repr

/-- The position in `input` at which `rest` is still unread. -/
def Position.ofRest (input rest : Bytes) : Position :=
  let read := input.take (input.length - rest.length)
  ⟨1 + read.count 0x0A, (read.reverse.takeWhile (· ≠ 0x0A)).length⟩

/-- A cause at a place of the text. -/
structure Located where
  cause : Cause
  position : Position

/-- The wording of a cause with its place. -/
def Located.message (l : Located) : String :=
  l.cause.message ++ " at line " ++ toString l.position.line ++ " column " ++
    toString l.position.column

/-- The place of a fault in the text that was read. -/
def Fault.locate (fault : Fault) (input : Bytes) : Located :=
  ⟨fault.cause, .ofRest input fault.rest⟩

end MethodRoutes.Json
