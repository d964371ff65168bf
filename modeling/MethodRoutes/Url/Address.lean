import MethodRoutes.Url.Error
import MethodRoutes.Url.Escape

/-!
# Numeric hosts

## Main definitions

* `Ipv4.ofText?`, `Ipv4.render` — addresses of 32 bits
* `Ipv6.ofText?`, `Ipv6.render` — addresses of eight groups of 16 bits
* `endsInNumber` — whether a host has to be an IPv4 address
-/

namespace MethodRoutes

/-- The parts of a text between the places where a character stands. -/
def partsAt (mark : Char) : List Char → List (List Char)
  | [] => [[]]
  | c :: rest =>
    if c = mark then [] :: partsAt mark rest
    else
      match partsAt mark rest with
      | [] => [[c]]
      | part :: parts => (c :: part) :: parts

/-- A number in a given base, if all characters are digits of it. -/
def numberInBase? (base : Nat) (digits : List Char) : Option Nat :=
  digits.foldlM (fun n c =>
    match hexDigitValue? c with
    | some d => if d < base then some (base * n + d) else none
    | none => none) 0

namespace Ipv4

/-- A part of an address: decimal, octal after a zero, or hexadecimal after `0x`; nothing but
the mark of the base stands for zero. -/
def part? (text : List Char) : Option Nat :=
  match text with
  | [] => none
  | '0' :: 'x' :: digits => numberInBase? 16 digits
  | '0' :: 'X' :: digits => numberInBase? 16 digits
  | '0' :: d :: digits => numberInBase? 8 (d :: digits)
  | digits => numberInBase? 10 digits

/-- The parts of a host, without an empty one at its end. -/
def parts (host : List Char) : List (List Char) :=
  let all := partsAt '.' host
  if all.getLast? = some [] then all.dropLast else all

/-- The address of up to four parts: the last one fills what the others leave, the others are
one byte each. -/
def ofNumbers? (numbers : List Nat) : Option Nat :=
  match numbers.getLast? with
  | none => none
  | some last =>
    let leading := numbers.dropLast
    let room := Nat.pow 256 (4 - leading.length)
    if 4 < numbers.length ∨ leading.any (255 < ·) ∨ room ≤ last then none
    else some (leading.foldl (fun n b => 256 * n + b) 0 * room + last)

/-- The address that a host denotes. -/
def ofText? (host : List Char) : Option Nat := do
  ofNumbers? (← (parts host).mapM part?)

/-- The four bytes of an address with points between them. -/
def render (address : Nat) : String :=
  ".".intercalate ([3, 2, 1, 0].map fun k => toString (address / Nat.pow 256 k % 256))

end Ipv4

/-- Whether the last part of a host is a number, or looks like one. -/
def endsInNumber (host : List Char) : Bool :=
  match (Ipv4.parts host).getLast? with
  | none => false
  | some last => (!last.isEmpty && last.all Char.isDigit) || (Ipv4.part? last).isSome

namespace Ipv6

/-- A group of one to four hexadecimal digits. -/
def group? (text : List Char) : Option Nat :=
  if text.isEmpty ∨ 4 < text.length then none else numberInBase? 16 text

/-- A decimal byte without leading zeros. -/
def byte? (text : List Char) : Option Nat :=
  match text with
  | [] => none
  | '0' :: _ :: _ => none
  | digits => (numberInBase? 10 digits).filter (· ≤ 255)

/-- The two groups of a trailing part in the form of an IPv4 address. -/
def dotted? (text : List Char) : Option (List Nat) := do
  match ← (partsAt '.' text).mapM byte? with
  | [a, b, c, d] => some [256 * a + b, 256 * c + d]
  | _ => none

/-- Groups with colons between them; where `mayDot` holds, the last one may be dotted. -/
def groups? (mayDot : Bool) (text : List Char) : Option (List Nat) := do
  if text.isEmpty then some []
  else
    let parts := partsAt ':' text
    let leading ← parts.dropLast.mapM group?
    let last := parts.getLast?.getD []
    if mayDot && last.contains '.' then return leading ++ (← dotted? last)
    else return leading ++ [← group? last]

/-- Split at the first pair of colons. -/
def splitAtPair : List Char → Option (List Char × List Char)
  | [] => none
  | ':' :: ':' :: rest => some ([], rest)
  | c :: rest => (splitAtPair rest).map fun (a, b) => (c :: a, b)

/-- The groups of the address in a text. A pair of colons stands for at least one group of
zeros. -/
def ofText? (text : List Char) : Option (List Nat) := do
  match splitAtPair text with
  | none =>
    let groups ← groups? true text
    if groups.length = 8 then some groups else none
  | some (before, after) =>
    let leading ← groups? false before
    let trailing ← groups? true after
    let missing := 8 - (leading.length + trailing.length)
    if missing = 0 then none else some (leading ++ List.replicate missing 0 ++ trailing)

/-- The length of the run of zeros at the start. -/
def zeros (groups : List Nat) : Nat := (groups.takeWhile (· = 0)).length

/-- The start and length of the first longest run of zeros. -/
def longestZeros (groups : List Nat) : Nat × Nat :=
  (List.range groups.length).foldl (fun best i =>
    let n := zeros (groups.drop i)
    if best.2 < n then (i, n) else best) (0, 0)

/-- The text of an address: lowercase groups, the first longest run of at least two zeros
replaced by a pair of colons. -/
def render (groups : List Nat) : String :=
  let joined (gs : List Nat) : String :=
    ":".intercalate (gs.map fun g => String.ofList (Nat.toDigits 16 g))
  let (start, length) := longestZeros groups
  if length < 2 then joined groups
  else joined (groups.take start) ++ "::" ++ joined (groups.drop (start + length))

end Ipv6

end MethodRoutes
