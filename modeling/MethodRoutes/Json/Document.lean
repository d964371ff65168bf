import MethodRoutes.Json.Lexeme

/-!
# Reading a JSON document

## Main definitions

* `Json.nextItem`, `Json.nextKey`, `Json.readColon` — the marks between the parts of a list or an
  object
* `Json.readItems`, `Json.readFields` — a list or an object, given readers for its parts
* `Json.readValue` — any value, up to a given depth
* `Json.nestingLimit` — how deep lists and objects may lie in one another
-/

namespace MethodRoutes.Json

/-- Go to the next item of a list, or to its closing bracket: whether there is one, and where. -/
def nextItem (first : Bool) (s : Bytes) : Except Fault (Bool × Bytes) :=
  match skipBlanks s with
  | [] => .error (.upon .endInList [])
  | b :: s =>
    if b = 0x5D then .ok (false, b :: s)
    else if first then .ok (true, b :: s)
    else if b = 0x2C then
      match skipBlanks s with
      | [] => .error (.upon .endInValue [])
      | c :: s => if c = 0x5D then .error (.upon .trailingComma (c :: s)) else .ok (true, c :: s)
    else .error (.upon .expectedListCommaOrEnd (b :: s))

/-- Go to the next key of an object, or to its closing brace. A key is given from behind its
opening quotation mark. -/
def nextKey (first : Bool) (s : Bytes) : Except Fault (Bool × Bytes) :=
  match skipBlanks s with
  | [] => .error (.upon .endInObject [])
  | b :: s =>
    if b = 0x7D then .ok (false, b :: s)
    else if first then
      if b = 0x22 then .ok (true, s) else .error (.upon .keyMustBeString (b :: s))
    else if b = 0x2C then
      match skipBlanks s with
      | [] => .error (.upon .endInValue [])
      | c :: s =>
        if c = 0x22 then .ok (true, s)
        else if c = 0x7D then .error (.upon .trailingComma (c :: s))
        else .error (.upon .keyMustBeString (c :: s))
    else .error (.upon .expectedObjectCommaOrEnd (b :: s))

/-- Pass over the colon after a key. -/
def readColon (s : Bytes) : Except Fault Bytes :=
  match skipBlanks s with
  | [] => .error (.upon .endInObject [])
  | b :: s => if b = 0x3A then .ok s else .error (.upon .expectedColon (b :: s))

/-- Read at most `fuel` items and the closing bracket of a list. -/
def readItemsFrom {α : Type} (item : Reader α) (first : Bool) :
    Nat → Bytes → Except Fault (List α × Bytes)
  | 0, s => .error (.before .endInList s)
  | fuel + 1, s => do
    let (more, s) ← nextItem first s
    if more then
      let (x, s) ← item s
      let (xs, s) ← readItemsFrom item false fuel s
      return (x :: xs, s)
    else return ([], s.drop 1)

/-- Read a list from behind its opening bracket. Each step takes a byte, so there are no more
steps than bytes. -/
def readItems {α : Type} (item : Reader α) : Reader (List α) := fun s =>
  readItemsFrom item true (s.length + 1) s

/-- Read at most `fuel` fields and the closing brace of an object. -/
def readFieldsFrom {α : Type} (value : Reader α) (first : Bool) :
    Nat → Bytes → Except Fault (List (String × α) × Bytes)
  | 0, s => .error (.before .endInObject s)
  | fuel + 1, s => do
    let (more, s) ← nextKey first s
    if more then
      let (key, s) ← readString s
      let s ← readColon s
      let (x, s) ← value s
      let (xs, s) ← readFieldsFrom value false fuel s
      return ((key, x) :: xs, s)
    else return ([], s.drop 1)

/-- Read the fields of an object from behind its opening brace, in the order of the text. -/
def readFields {α : Type} (value : Reader α) : Reader (List (String × α)) := fun s =>
  readFieldsFrom value true (s.length + 1) s

/-- Apply a function to what a reader gives. -/
def mapRead {α β : Type} (f : α → β) (r : Except Fault (α × Bytes)) : Except Fault (β × Bytes) :=
  r.map fun (a, s) => (f a, s)

/-- Read a value whose items and fields are read by `inner`; without it, lists and objects are
refused. -/
def readNode (inner : Option (Reader Value)) : Reader Value := fun s =>
  match skipBlanks s with
  | [] => .error (.upon .endInValue [])
  | b :: s =>
    if b = 0x6E then (readWord nullTail s).map (Value.null, ·)
    else if b = 0x74 then (readWord trueTail s).map (Value.bool true, ·)
    else if b = 0x66 then (readWord falseTail s).map (Value.bool false, ·)
    else if b = 0x2D then mapRead Value.number (readNumber true s)
    else if isDigit b then mapRead Value.number (readNumber false (b :: s))
    else if b = 0x22 then mapRead Value.string (readString s)
    else if b = 0x5B then
      match inner with
      | some value => mapRead Value.array (readItems value s)
      | none => .error (.upon .recursionLimit (b :: s))
    else if b = 0x7B then
      match inner with
      | some value => mapRead Value.ofFields (readFields value s)
      | none => .error (.upon .recursionLimit (b :: s))
    else .error (.upon .expectedValue (b :: s))

/-- Read a value in which lists and objects lie at most `depth` deep in one another. -/
def readValue : Nat → Reader Value
  | 0 => readNode none
  | depth + 1 => readNode (some (readValue depth))

/-- Lists and objects may lie this deep in one another. -/
def nestingLimit : Nat := 127

end MethodRoutes.Json
