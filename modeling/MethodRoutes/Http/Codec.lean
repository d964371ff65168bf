import MethodRoutes.Http.Message
import MethodRoutes.Json.Format

/-!
# Codecs

A codec turns argument values into the bodies of requests, and the bodies of responses into
values.

## Main definitions

* `CodecError`, `Codec`
* `Codec.json` — the codec that bodies have unless another one is chosen
-/

namespace MethodRoutes

/-- Why a codec failed. -/
inductive CodecError where
  /-- A value has no encoding. -/
  | encode (message : String)
  /-- A body cannot be decoded as the type with the name `hint`. -/
  | decode (hint message : String)
  deriving DecidableEq, Repr

/-- The wording of a codec's failure. -/
def CodecError.message : CodecError → String
  | encode m => "encode error: " ++ m
  | decode hint m => "decode error (" ++ hint ++ "): " ++ m

/-- Turns values into bodies and bodies into values. -/
structure Codec where
  /-- The body of a value. -/
  encode : Json.Value → Except CodecError Bytes
  /-- The value of a body, which is expected to be of a type. -/
  decode : Bytes → ResultType → Except CodecError Json.Value
  /-- The content type of the bodies that it makes. -/
  contentType : String

namespace Codec

/-- Whether the name of a type stands for text. -/
def isTextName (typeName : String) : Bool :=
  typeName = "String" || typeName = "str" || typeName = "&str"

/-- A body is a JSON document. Where text is expected, a body that is no such document is the
text itself. -/
def decodeJson (body : Bytes) : ResultType → Except CodecError Json.Value
  | .unit => .ok .null
  | .value typeName =>
    match Json.Value.parse body with
    | .ok v => .ok v
    | .error e =>
      match isTextName typeName, Bytes.text? body with
      | true, some text => .ok (.string text)
      | _, _ => .error (.decode typeName e.message)

/-- Bodies are JSON documents. -/
def json : Codec where
  encode v := .ok (Bytes.ofText v.render)
  decode := decodeJson
  contentType := "application/json"

end Codec

end MethodRoutes
