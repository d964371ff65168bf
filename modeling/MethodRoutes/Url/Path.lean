import MethodRoutes.Url.Basic

/-!
# Segments of a path

A path is read segment by segment: `.` stays where it is and `..` goes up, also where their
points are escaped. In a URL of a file, a drive letter at the start is never left.

## Main definitions

* `UrlPath.ofSegments` — the path that segments lead to
-/

namespace MethodRoutes.UrlPath

/-- A segment in which escaped points are replaced by points. -/
def plainPoints : List Char → List Char
  | [] => []
  | '%' :: '2' :: 'e' :: rest => '.' :: plainPoints rest
  | '%' :: '2' :: 'E' :: rest => '.' :: plainPoints rest
  | c :: rest => c :: plainPoints rest

/-- Whether a segment stays where it is. -/
def isSingleDot (segment : List Char) : Bool := plainPoints segment = ['.']

/-- Whether a segment goes up. -/
def isDoubleDot (segment : List Char) : Bool := plainPoints segment = ['.', '.']

/-- A letter with a colon or a bar. -/
def isDriveLetter (segment : List Char) : Bool :=
  match segment with
  | [c, mark] => c.isAlpha && (mark = ':' || mark = '|')
  | _ => false

/-- A letter with a colon. -/
def isNormalDriveLetter (segment : String) : Bool :=
  isDriveLetter segment.toList && segment.toList.getLast? = some ':'

/-- The segments without the last one. A drive letter of a file stays. -/
def goUp (file : Bool) (segments : List String) : List String :=
  match segments with
  | [drive] => if file && isNormalDriveLetter drive then [drive] else []
  | _ => segments.dropLast

/-- The text of a segment that comes after `before`. -/
def encodeSegment (file : Bool) (before : List String) (segment : List Char) : String :=
  let segment :=
    if file && before.isEmpty && isDriveLetter segment then segment.take 1 ++ [':'] else segment
  String.ofList (EscapeSet.path.encode segment)

/-- The segments that a list of read segments leads to. The last one leaves an empty segment
where it only moves. -/
def walk (file : Bool) (before : List String) : List (List Char) → List String
  | [] => before
  | [last] =>
    if isDoubleDot last then goUp file before ++ [""]
    else if isSingleDot last then before ++ [""]
    else before ++ [encodeSegment file before last]
  | segment :: rest =>
    if isDoubleDot segment then walk file (goUp file before) rest
    else if isSingleDot segment then walk file before rest
    else walk file (before ++ [encodeSegment file before segment]) rest

/-- Without the empty segments before the last one at the start. -/
def dropEmpty : List String → List String
  | first :: second :: rest =>
    if first.isEmpty then dropEmpty (second :: rest) else first :: second :: rest
  | segments => segments

/-- The path that segments lead to; in a URL of a file it does not start with empty segments. -/
def ofSegments (file : Bool) (segments : List (List Char)) : UrlPath :=
  let walked := walk file [] segments
  .rooted (if file then dropEmpty walked else walked)

end MethodRoutes.UrlPath
