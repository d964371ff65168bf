import MethodRoutes.Json.Format
import MethodRoutes.Json.Skip

/-!
# Records

A record is written as an object with one field for each part, in any order, or as a list of its
parts. Fields that the record does not have are passed over.

## Main definitions

* `Json.Field` — a part of a record
* `Json.Record` — the fields of a record and how they make it
* `Json.Record.format` — the format of a record
-/

namespace MethodRoutes.Json

/-- A part of a record. While a record is read, its parts are collected in a draft. -/
structure Field (δ : Type) where
  /-- The key of the field. -/
  name : String
  /-- Whether a list may end before the field. -/
  optional : Bool
  /-- Whether a draft has the part. -/
  given : δ → Bool
  /-- Put the part into a draft, out of a value. -/
  ofValue : δ → Value → Except Mismatch δ
  /-- Put the part into a draft, out of a text. -/
  read : δ → Reader δ

/-- The field whose part has a format and a place in the draft. -/
def Field.of {δ β : Type} (name : String) (optional : Bool) (format : Format β)
    (get : δ → Option β) (set : δ → β → δ) : Field δ where
  name := name
  optional := optional
  given d := (get d).isSome
  ofValue d v := (format.ofValue v).map (set d)
  read d s := mapRead (set d) (format.read s)

/-- A part that the record cannot do without. -/
def require {β : Type} (name : String) : Option β → Except Mismatch β
  | some b => .ok b
  | none => .error (.missingField name)

/-- The parts of a record and how they make it. -/
structure Record (δ α : Type) where
  /-- The name of the record in diagnostics. -/
  name : String
  /-- The fields, in the order in which a list has them. -/
  fields : List (Field δ)
  /-- The draft without parts. -/
  start : δ
  /-- The record that a draft describes. -/
  finish : δ → Except Mismatch α

namespace Record

variable {δ α : Type} (record : Record δ α)

/-- What is wanted, in diagnostics. -/
def expected : String := "struct " ++ record.name

/-- What is wanted of a list, in diagnostics. -/
def expectedItems : String :=
  record.expected ++ " with " ++ toString record.fields.length ++
    (if record.fields.length = 1 then " element" else " elements")

/-- The field with a key. -/
def find? (key : String) : Option (Field δ) := record.fields.find? fun f => f.name = key

/-- Collect the fields of an object. -/
def ofObject (draft : δ) : List (String × Value) → Except Mismatch δ
  | [] => .ok draft
  | (key, v) :: rest => do
    match record.find? key with
    | some field =>
      if field.given draft then .error (.duplicateField key)
      else ofObject (← field.ofValue draft v) rest
    | none => ofObject draft rest

/-- Collect the items of a list: the draft and how many items are left over. -/
def ofItems (draft : δ) (count : Nat) : List (Field δ) → List Value → Except Mismatch (δ × Nat)
  | [], items => .ok (draft, items.length)
  | field :: fields, [] =>
    if field.optional then ofItems draft (count + 1) fields []
    else .error (.invalidLength count record.expectedItems)
  | field :: fields, v :: items => do
    ofItems (← field.ofValue draft v) (count + 1) fields items

/-- Read the fields of an object from behind its opening brace up to its closing one. -/
def readObject (draft : δ) (first : Bool) : Nat → Reader δ
  | 0, s => .error (.before .endInObject s)
  | fuel + 1, s => do
    let (more, s) ← nextKey first s
    if more then
      let (key, s) ← readString s
      match record.find? key with
      | some field =>
        -- A repeated key is refused before its value is looked at.
        if field.given draft then .error ⟨.mismatch (.duplicateField key), s, false⟩
        else
          let s ← readColon s
          let (draft, s) ← field.read draft s
          readObject draft false fuel s
      | none =>
        let s ← readColon s
        let s ← skipValue s
        readObject draft false fuel s
    else return (draft, s)

/-- Read the items of a list from behind its opening bracket, one for each field. -/
def readList (draft : δ) (first : Bool) (count : Nat) : List (Field δ) → Reader δ
  | [], s => .ok (draft, s)
  | field :: fields, s => do
    let (more, s) ← nextItem first s
    if more then
      let (draft, s) ← field.read draft s
      readList draft false (count + 1) fields s
    else if field.optional then readList draft first (count + 1) fields s
    else .error ⟨.mismatch (.invalidLength count record.expectedItems), s, false⟩

/-- How far one gets from inside an object when it is given up: past its end, if that follows. -/
def leaveObject (s : Bytes) : Bytes :=
  match skipBlanks s with
  | b :: r => if b = 0x7D then r else b :: r
  | [] => []

/-- How far one gets from inside a list when it is given up: past its end or a comma, if one of
them follows. -/
def leaveList (s : Bytes) : Bytes :=
  match skipBlanks s with
  | b :: r => if b = 0x5D then r else if b = 0x2C then skipBlanks r else b :: r
  | [] => []

/-- Pass over the end of a list that has an item for every field. -/
def closeList (s : Bytes) : Except Fault Bytes :=
  match skipBlanks s with
  | [] => .error (.upon .endInList [])
  | b :: r =>
    if b = 0x5D then .ok r
    else if b = 0x2C then
      match skipBlanks r with
      | c :: t =>
        if c = 0x5D then .error (.upon .trailingComma (c :: t))
        else .error (.upon .trailingCharacters (c :: t))
      | [] => .error (.upon .trailingCharacters [])
    else .error (.upon .trailingCharacters (b :: r))

/-- Settle the faults that a reader leaves open. -/
def settling {β : Type} (leave : Bytes → Bytes) (result : Except Fault β) : Except Fault β :=
  result.mapError (·.settle leave)

/-- Make the record of a draft; what is missing is noticed at the end of the record. -/
def finishAt (draft : δ) (s : Bytes) : Except Fault α :=
  match record.finish draft with
  | .ok a => .ok a
  | .error m => .error ⟨.mismatch m, s, false⟩

/-- The format of the record. -/
def format : Format α where
  ofValue
    | .object fields => do record.finish (← record.ofObject record.start fields)
    | .array items => do
      let (draft, left) ← record.ofItems record.start 0 record.fields items
      let a ← record.finish draft
      if left = 0 then return a
      else .error (.invalidLength items.length "fewer elements in array")
    | v => .error (.invalidType (.ofValue v) record.expected)
  read s :=
    match skipBlanks s with
    | [] => .error (.upon .endInValue [])
    | b :: r =>
      if b = 0x7B then
        settling leaveObject do
          let (draft, s) ← record.readObject record.start true (r.length + 1) r
          let a ← record.finishAt draft s
          return (a, s.drop 1)
      else if b = 0x5B then do
        -- The record is made before the end of the list is looked for.
        let (a, s) ← settling leaveList do
          let (draft, s) ← record.readList record.start true 0 record.fields r
          let a ← record.finishAt draft s
          return (a, s)
        let s ← closeList s
        return (a, s)
      else .error (differing record.expected (b :: r))

end Record

end MethodRoutes.Json
