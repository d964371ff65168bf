import MethodRoutes.Destination.Segment
import MethodRoutes.Text.Alphabetic

/-!
# Reading a destination

A destination is read in one pass from left to right.

* A backslash makes the next character data, whatever it is; at the end of the text it is dropped.
* `{` ends the run of characters before it and opens a reference.
* `}` ends an open reference; elsewhere it is data.
* A parenthesis inside a reference turns it into an invocation.

A run without characters yields nothing, so `{}` stands for the empty text. Each other run
yields one entry, which is a segment or an error of its own: a reference that cannot be read
leaves its neighbours alone.

## Main definitions

* `Destination.scan` — one entry for each run
* `Destination.parse` — all segments, or the first error
-/

namespace MethodRoutes

/-- What the characters of the current run belong to. -/
inductive ScanMode where
  /-- Text outside of references. -/
  | text
  /-- A reference without a parenthesis so far. -/
  | reference
  /-- A reference with a parenthesis. -/
  | invocation
  deriving DecidableEq, Repr

namespace Segment

/-- Positions are machine words of 64 bits: the first one that cannot be referred to, `2 ^ 64`. -/
def indexBound : Nat := 0x10000000000000000

/-- The number that a list of decimal digits denotes. -/
def valueOfDigits (digits : List Char) : Nat :=
  digits.foldl (fun n d => 10 * n + (d.toNat - '0'.toNat)) 0

/-- An invocation ends in `()`; its name is what stands before the first parenthesis. -/
def ofInvocation (run : List Char) : Except SegmentError Segment :=
  if ['(', ')'].isSuffixOf run then
    .ok (.accessor (String.ofList (run.takeWhile (· ≠ '('))))
  else
    .error (.missingParentheses (String.ofList run))

/-- A parameter reference starts with the decimal digits of a position; what follows them is a
label without meaning. Without digits, a run that starts like a name is taken for an invocation
that lacks its parentheses. -/
def ofReference (run : List Char) : Except SegmentError Segment :=
  match run.takeWhile Char.isDigit with
  | [] =>
    if (run.head?.map fun c => Text.isAlphabetic c || c = '_').getD false then
      .error (.missingParentheses (String.ofList run))
    else
      .error (.malformedParameter (String.ofList run))
  | digits =>
    if valueOfDigits digits < indexBound then
      .ok (.parameter (valueOfDigits digits))
    else
      .error (.indexOverflow (String.ofList run))

/-- The entry for a run that is not empty. -/
def ofRun (mode : ScanMode) (run : List Char) : Except SegmentError Segment :=
  match mode with
  | .text => .ok (.literal (String.ofList run))
  | .reference => ofReference run
  | .invocation => ofInvocation run

end Segment

namespace Destination

/-- The entries for a run that has ended: none for an empty one. -/
def endRun (mode : ScanMode) (run : List Char) : List (Except SegmentError Segment) :=
  if run.isEmpty then [] else [Segment.ofRun mode run]

/-- The entries for the rest of a text, where `run` holds the data of the current run so far. -/
def scanFrom (mode : ScanMode) (run : List Char) :
    List Char → List (Except SegmentError Segment)
  | [] => endRun mode run
  | '\\' :: [] => endRun mode run
  | '\\' :: c :: rest => scanFrom mode (run ++ [c]) rest
  | c :: rest =>
    -- A reference that is still open ends here too, as if it had been closed.
    if c = '{' then endRun mode run ++ scanFrom .reference [] rest
    else if mode = .text then scanFrom .text (run ++ [c]) rest
    else if c = '(' || c = ')' then scanFrom .invocation (run ++ [c]) rest
    else if c = '}' then endRun mode run ++ scanFrom .text [] rest
    else scanFrom mode (run ++ [c]) rest

/-- The entries of a text, each one a segment or the error of its reference. -/
def scan (text : String) : List (Except SegmentError Segment) :=
  scanFrom .text [] text.toList

/-- The destination that a text describes, or the error of its first malformed reference. -/
def parse (text : String) : Except SegmentError Destination :=
  (scan text).mapM id |>.map Destination.mk

end Destination

end MethodRoutes
