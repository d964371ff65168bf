/-!
# Segments of a destination

A destination is a text with references that are filled in for each call. Read, it is a list of
segments: text to copy, the position of an argument, or the name of an accessor to invoke.

## Main definitions

* `Segment` — one piece of a destination
* `SegmentError` — why a reference cannot be read, with the text of the reference
* `Destination` — the segments of a whole destination
* `Destination.render` — the canonical text of a destination
-/

namespace MethodRoutes

/-- One piece of a destination. -/
inductive Segment where
  /-- Text that is copied as it is. -/
  | literal (text : String)
  /-- The argument at a position, counted from zero. -/
  | parameter (index : Nat)
  /-- The answer of the accessor with this name. -/
  | accessor (name : String)
  deriving DecidableEq, Repr

/-- Why a reference cannot be read. Each cause carries the characters of the reference. -/
inductive SegmentError where
  /-- The reference looks like an invocation but does not end in `()`. -/
  | missingParentheses (fragment : String)
  /-- The reference starts with neither a digit nor a name. -/
  | malformedParameter (fragment : String)
  /-- The digits of the reference name a position of `2 ^ 64` or more. -/
  | indexOverflow (fragment : String)
  deriving DecidableEq, Repr

/-- The characters of the reference that could not be read. -/
def SegmentError.fragment : SegmentError → String
  | missingParentheses s | malformedParameter s | indexOverflow s => s

/-- The wording of a reference error. -/
def SegmentError.message : SegmentError → String
  | missingParentheses s => "missing () in method invocation notation: " ++ s
  | malformedParameter s => "cannot parse parameter access, malformed notation: " ++ s
  | indexOverflow s => "parameter index does not fit in an index: " ++ s

/-- A destination whose references could all be read. -/
structure Destination where
  /-- The pieces, from left to right. -/
  segments : List Segment
  deriving DecidableEq, Repr

/-- The position that a segment refers to, if it refers to one. -/
def Segment.parameter? : Segment → Option Nat
  | .parameter index => some index
  | _ => none

/-- The accessor that a segment invokes, if it invokes one. -/
def Segment.accessor? : Segment → Option String
  | .accessor name => some name
  | _ => none

/-- Whether a character of a literal is written with a backslash before it. -/
def Segment.needsEscape (c : Char) : Bool := c = '{' || c = '}' || c = '\\'

/-- The characters of a literal with `{`, `}` and the backslash escaped. -/
def Segment.escape (text : List Char) : List Char :=
  text.flatMap fun c => if needsEscape c then ['\\', c] else [c]

/-- The canonical text of a segment: an escaped literal, `{3}`, or `{name()}`. -/
def Segment.render : Segment → List Char
  | .literal text => escape text.toList
  | .parameter index => '{' :: ((toString index).toList ++ ['}'])
  | .accessor name => '{' :: (name.toList ++ ['(', ')', '}'])

namespace Destination

/-- The positions that are referred to, in order of appearance. -/
def parameters (d : Destination) : List Nat := d.segments.filterMap Segment.parameter?

/-- The accessors that are invoked, in order of appearance. -/
def accessors (d : Destination) : List String := d.segments.filterMap Segment.accessor?

/-- The number of segments. -/
def size (d : Destination) : Nat := d.segments.length

/-- Whether there are no segments. -/
def isEmpty (d : Destination) : Bool := d.segments.isEmpty

/-- The canonical text: the texts of the segments one after another. Labels are gone and only
literals are escaped. -/
def render (d : Destination) : String := String.ofList (d.segments.flatMap Segment.render)

end Destination

end MethodRoutes
