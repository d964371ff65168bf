import MethodRoutes.Json.Document
import MethodRoutes.Table

/-!
# Formats

A format says how values of a type are written in JSON. It reads them in two ways: out of a JSON
value, and out of a text, where a fault has a place and the first one in the text counts.

## Main definitions

* `Json.Format` — the two readers
* `Json.Format.text`, `Json.Format.bool`, `Json.Format.natural`, `Json.Format.list`, … — the
  formats of basic types
* `Json.Format.choice` — one of several names, some of them with content
* `Json.Format.decode` — read a whole text
-/

namespace MethodRoutes.Json

/-- How values of a type are written. -/
structure Format (α : Type) where
  /-- Read out of a value. -/
  ofValue : Value → Except Mismatch α
  /-- Read out of a text, from where the value may start. -/
  read : Reader α

/-- The fault of a text that holds something else than what was wanted. A number, word or string
is read to its end first; a list or an object is not entered. -/
def differing (expected : String) (s : Bytes) : Fault :=
  match s with
  | [] => .upon .expectedValue []
  | b :: r =>
    let named (found : Found) (rest : Bytes) : Fault := .differs (.invalidType found expected) rest
    let ofRead {α : Type} (found : α → Found) (result : Except Fault (α × Bytes)) : Fault :=
      match result with
      | .ok (a, rest) => named (found a) rest
      | .error fault => fault
    if b = 0x6E then ofRead (fun _ => Found.null) ((readWord nullTail r).map ((), ·))
    else if b = 0x74 then ofRead (fun _ => Found.bool true) ((readWord trueTail r).map ((), ·))
    else if b = 0x66 then ofRead (fun _ => Found.bool false) ((readWord falseTail r).map ((), ·))
    else if b = 0x2D then ofRead Found.number (readNumber true r)
    else if isDigit b then ofRead Found.number (readNumber false s)
    else if b = 0x22 then ofRead Found.string (readString r)
    else if b = 0x5B then named .list s
    else if b = 0x7B then named .object s
    else .upon .expectedValue s

namespace Format

variable {α β : Type}

/-- The value is not what the format wants. -/
def refuse (expected : String) (v : Value) : Except Mismatch α :=
  .error (.invalidType (.ofValue v) expected)

/-- Every value is admitted. -/
def any : Format Value where
  ofValue := .ok
  read := readValue nestingLimit

/-- The same format for what a function makes of its values. -/
def map (f : α → β) (format : Format α) : Format β where
  ofValue v := (format.ofValue v).map f
  read s := mapRead f (format.read s)

/-- Nothing, written `null`. -/
def unit : Format Unit where
  ofValue
    | .null => .ok ()
    | v => refuse "unit" v
  read s :=
    match skipBlanks s with
    | [] => .error (.upon .endInValue [])
    | b :: r =>
      if b = 0x6E then (readWord nullTail r).map ((), ·) else .error (differing "unit" (b :: r))

/-- A text whose content is described by `expected` in diagnostics. -/
def textNamed (expected : String) : Format String where
  ofValue
    | .string s => .ok s
    | v => refuse expected v
  read s :=
    match skipBlanks s with
    | [] => .error (.upon .endInValue [])
    | b :: r => if b = 0x22 then readString r else .error (differing expected (b :: r))

/-- A text. -/
def text : Format String := textNamed "a string"

/-- A truth value. -/
def bool : Format Bool where
  ofValue
    | .bool b => .ok b
    | v => refuse "a boolean" v
  read s :=
    match skipBlanks s with
    | [] => .error (.upon .endInValue [])
    | b :: r =>
      if b = 0x74 then (readWord trueTail r).map (true, ·)
      else if b = 0x66 then (readWord falseTail r).map (false, ·)
      else .error (differing "a boolean" (b :: r))

/-- A number that satisfies `accept`. -/
def number (expected : String) (accept : Number → Except Mismatch α) : Format α where
  ofValue
    | .number n => accept n
    | v => refuse expected v
  read s :=
    let check (result : Except Fault (Number × Bytes)) : Except Fault (α × Bytes) :=
      match result with
      | .ok (n, rest) =>
        match accept n with
        | .ok a => .ok (a, rest)
        | .error m => .error (.differs m rest)
      | .error fault => .error fault
    match skipBlanks s with
    | [] => .error (.upon .endInValue [])
    | b :: r =>
      if b = 0x2D then check (readNumber true r)
      else if isDigit b then check (readNumber false (b :: r))
      else .error (differing expected (b :: r))

/-- A whole number between two bounds, under the name of its machine type. -/
def integer (expected : String) (least greatest : Int) : Format Int :=
  number expected fun
    | .integer n =>
      if least ≤ n ∧ n ≤ greatest then .ok n
      else .error (.invalidValue (.number (.integer n)) expected)
    | .float x => .error (.invalidType (.number (.float x)) expected)

/-- A natural number below `2 ^ bits`. -/
def natural (bits : Nat) : Format Nat :=
  (integer ("u" ++ toString bits) 0 (Int.ofNat (Nat.pow 2 bits - 1))).map Int.toNat

/-- A binary64 number; a whole number is rounded to one. -/
def float : Format Float :=
  number "f64" fun
    | .integer n => .ok (Float.ofInt n)
    | .float x => .ok x

/-- A list. -/
def list (item : Format α) : Format (List α) where
  ofValue
    | .array items => items.mapM item.ofValue
    | v => refuse "a sequence" v
  read s :=
    match skipBlanks s with
    | [] => .error (.upon .endInValue [])
    | b :: r => if b = 0x5B then readItems item.read r else .error (differing "a sequence" (b :: r))

/-- An object with any keys; of two fields with one key the later one counts. -/
def table (value : Format α) : Format (Table String α) where
  ofValue
    | .object fields => do
      let entries ← fields.mapM fun f => (value.ofValue f.2).map (f.1, ·)
      return Table.ofList entries
    | v => refuse "a map" v
  read s :=
    match skipBlanks s with
    | [] => .error (.upon .endInValue [])
    | b :: r =>
      if b = 0x7B then mapRead Table.ofList (readFields value.read r)
      else .error (differing "a map" (b :: r))

/-- A value or `null`. -/
def option (format : Format α) : Format (Option α) where
  ofValue
    | .null => .ok none
    | v => (format.ofValue v).map some
  read s :=
    match skipBlanks s with
    | b :: r =>
      if b = 0x6E then (readWord nullTail r).map (none, ·)
      else mapRead some (format.read (b :: r))
    | [] => mapRead some (format.read [])

/-- What a name in a choice stands for. -/
inductive Choice (α : Type) where
  /-- A value of its own. -/
  | plain (a : α)
  /-- A value made from content. -/
  | withText (make : String → α)

/-- Read what belongs to a name out of the value that stands beside it, if there is one. -/
def Choice.ofValue (choice : Choice α) (content : Option Value) : Except Mismatch α :=
  match choice, content with
  | .plain a, none => .ok a
  | .plain a, some v => (unit.ofValue v).map fun _ => a
  | .withText _, none => .error (.invalidType .bareName "newtype variant")
  | .withText make, some v => (text.ofValue v).map make

/-- Read what belongs to a name from behind the colon after it. -/
def Choice.read (choice : Choice α) : Reader α := fun s =>
  match choice with
  | .plain a => mapRead (fun _ => a) (unit.read s)
  | .withText make => mapRead make (text.read s)

/-- What the name `name` stands for. -/
def findChoice (choices : List (String × Choice α)) (name : String) :
    Except Mismatch (Choice α) :=
  match choices.find? fun c => c.1 = name with
  | some c => .ok c.2
  | none => .error (.unknownName name (choices.map Prod.fst))

/-- Read the name of a choice; a fault in the name lies after it. -/
def readChoiceName (choices : List (String × Choice α)) : Reader (Choice α) := fun s => do
  let (name, s) ← (textNamed "variant identifier").read s
  match findChoice choices name with
  | .ok choice => return (choice, s)
  | .error m => .error (.differs m s)

/-- One of several names, written as a string, or as an object that has the name as its only key
and the content as its value. That content is missing is a fault without a place of its own. -/
def choice (choices : List (String × Choice α)) : Format α where
  ofValue
    | .string name => do (← findChoice choices name).ofValue none
    | .object [(name, content)] => do (← findChoice choices name).ofValue (some content)
    | .object _ => .error (.invalidValue .object "map with a single key")
    | v => refuse "string or map" v
  read s :=
    match skipBlanks s with
    | [] => .error (.upon .endInValue [])
    | b :: r =>
      if b = 0x7B then do
        let (choice, s) ← readChoiceName choices r
        let s ← readColon s
        let (a, s) ← choice.read s
        match skipBlanks s with
        | [] => .error (.before .endInObject [])
        | c :: t => if c = 0x7D then .ok (a, t) else .error (.before .expectedValue (c :: t))
      else if b = 0x22 then do
        let (choice, s) ← readChoiceName choices (b :: r)
        match choice.ofValue none with
        | .ok a => return (a, s)
        | .error m => .error ⟨.mismatch m, s, false⟩
      else .error (.upon .expectedValue (b :: r))

/-- Read a whole text, which may end in blanks. -/
def decode (format : Format α) (input : Bytes) : Except Located α :=
  match format.read input with
  | .error fault => .error (fault.locate input)
  | .ok (a, s) =>
    match skipBlanks s with
    | [] => .ok a
    | rest => .error ((Fault.upon .trailingCharacters rest).locate input)

end Format

/-- The value that a text denotes. -/
def Value.parse (input : Bytes) : Except Located Value := Format.any.decode input

end MethodRoutes.Json
