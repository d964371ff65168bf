import MethodRoutes.Json.Document

/-!
# Passing over a value

A reader that does not want a value passes over it. It checks the grammar and nothing else:
numbers may be out of range, surrogates may stand alone, and values may lie at any depth in one
another.

## Main definitions

* `Json.skipValue` — pass over one value
-/

namespace MethodRoutes.Json

/-- A list or an object that has been opened. -/
inductive Frame where
  | list
  | object

namespace Frame

/-- The byte that closes the frame. -/
def close : Frame → UInt8
  | list => 0x5D
  | object => 0x7D

/-- The text ends inside of the frame. -/
def endError : Frame → SyntaxError
  | list => .endInList
  | object => .endInObject

/-- Neither a comma nor the end of the frame follows a part. -/
def commaError : Frame → SyntaxError
  | list => .expectedListCommaOrEnd
  | object => .expectedObjectCommaOrEnd

end Frame

/-- Where one stands when passing over a string. -/
inductive SkipState where
  | plain
  | escape
  | unit (digits : Bytes)

/-- Pass over a string from inside of its quotation marks. -/
def skipStringFrom (state : SkipState) : Bytes → Except Fault Bytes
  | [] => .error (.before .endInString [])
  | b :: s =>
    match state with
    | .plain =>
      if b = 0x22 then .ok s
      else if b = 0x5C then skipStringFrom .escape s
      -- Unlike in a string that is read, the control character is not taken.
      else if b < 0x20 then .error (.before .controlCharacter (b :: s))
      else skipStringFrom .plain s
    | .escape =>
      if (simpleEscape? b).isSome then skipStringFrom .plain s
      else if b = 0x75 then skipStringFrom (.unit []) s
      else .error (.before .invalidEscape s)
    | .unit digits =>
      let digits := digits ++ [b]
      if digits.length < 4 then skipStringFrom (.unit digits) s
      else if (hexValue? digits).isSome then skipStringFrom .plain s
      else .error (.before .invalidEscape s)

/-- Pass over an exponent from behind its `e`. -/
def skipExponent (s : Bytes) : Except Fault Bytes :=
  let s := match s with
    | b :: r => if b = 0x2B || b = 0x2D then r else s
    | [] => s
  match s with
  | [] => .error (.before .invalidNumber [])
  | b :: r => if isDigit b then .ok (r.dropWhile isDigit) else .error (.before .invalidNumber r)

/-- Pass over a number from behind the digits before its point. -/
def skipFraction (s : Bytes) : Except Fault Bytes :=
  match s with
  | [] => .ok []
  | b :: r =>
    if b = 0x2E then
      if (r.takeWhile isDigit).isEmpty then .error (.upon .invalidNumber r)
      else
        match r.dropWhile isDigit with
        | [] => .ok []
        | c :: t => if c = 0x65 || c = 0x45 then skipExponent t else .ok (c :: t)
    else if b = 0x65 || b = 0x45 then skipExponent r
    else .ok s

/-- Pass over a number after its sign. -/
def skipNumber : Bytes → Except Fault Bytes
  | [] => .error (.before .invalidNumber [])
  | b :: s =>
    if b = 0x30 then
      match s with
      | c :: _ => if isDigit c then .error (.upon .invalidNumber s) else skipFraction s
      | [] => skipFraction s
    else if isDigit b then skipFraction (s.dropWhile isDigit)
    else .error (.before .invalidNumber s)

/-- Pass over a key with its colon, up to the value of the field. -/
def skipKey (s : Bytes) : Except Fault Bytes :=
  match skipBlanks s with
  | [] => .error (.upon .endInObject [])
  | b :: s =>
    if b = 0x22 then do
      let s ← skipStringFrom .plain s
      readColon s
    else .error (.upon .keyMustBeString (b :: s))

/-- Go on to the next part of the innermost frame: past the key, if it is an object. -/
def enterPart (frame : Frame) (s : Bytes) : Except Fault Bytes :=
  match frame with
  | .list => .ok s
  | .object => skipKey s

/-- Pass over the ends of frames up to the next value. `afterPart` tells whether a part of the
innermost frame has just ended. No frames are left when the outermost value has ended. -/
def skipEnds (afterPart : Bool) : List Frame → Bytes → Except Fault (List Frame × Bytes)
  | [], s => .ok ([], s)
  | frame :: outer, s =>
    match skipBlanks s with
    | [] => .error (.upon frame.endError [])
    | b :: r =>
      if afterPart && b = 0x2C then (enterPart frame r).map (frame :: outer, ·)
      else if b = frame.close then skipEnds true outer r
      else if afterPart then .error (.upon frame.commaError (b :: r))
      else (enterPart frame (b :: r)).map (frame :: outer, ·)

/-- Pass over the start of a value, or over all of it if it is neither list nor object: whether
it has ended, and the frame that it opened otherwise. -/
def skipStart (s : Bytes) : Except Fault (Option Frame × Bytes) :=
  match skipBlanks s with
  | [] => .error (.upon .endInValue [])
  | b :: s =>
    if b = 0x6E then (readWord nullTail s).map (none, ·)
    else if b = 0x74 then (readWord trueTail s).map (none, ·)
    else if b = 0x66 then (readWord falseTail s).map (none, ·)
    else if b = 0x2D then (skipNumber s).map (none, ·)
    else if isDigit b then (skipNumber (b :: s)).map (none, ·)
    else if b = 0x22 then (skipStringFrom .plain s).map (none, ·)
    else if b = 0x5B then .ok (some .list, s)
    else if b = 0x7B then .ok (some .object, s)
    else .error (.upon .expectedValue (b :: s))

/-- Pass over values until no frame is open, in at most `fuel` steps. -/
def skipFrom (frames : List Frame) : Nat → Bytes → Except Fault Bytes
  | 0, s => .error (.upon .endInValue s)
  | fuel + 1, s => do
    let (opened, s) ← skipStart s
    let (frames, s) ← match opened with
      | some frame => skipEnds false (frame :: frames) s
      | none => skipEnds true frames s
    if frames.isEmpty then return s else skipFrom frames fuel s

/-- Pass over one value. Each step takes a byte, so there are no more steps than bytes. -/
def skipValue (s : Bytes) : Except Fault Bytes := skipFrom [] (s.length + 1) s

end MethodRoutes.Json
