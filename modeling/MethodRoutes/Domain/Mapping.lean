import MethodRoutes.Domain.Mapping.Ideographs
import MethodRoutes.Domain.Mapping.Kept
import MethodRoutes.Domain.Mapping.Letters
import MethodRoutes.Domain.Mapping.Ligatures

/-!
# The mapping of characters in domain names

Before a domain name is looked up, letters lose their case, and characters that are variants of
others are replaced by them. Some characters are dropped, and some may not occur at all.

## Main definitions

* `mapping?` — what a character is replaced by, or nothing if it may not occur
-/

namespace MethodRoutes.Domain

/-- Whether a code point lies in one of the ranges. -/
def inRanges (ranges : List (Nat × Nat)) (n : Nat) : Bool :=
  ranges.any fun (first, last) => first ≤ n && n ≤ last

/-- The replacement in a row of characters. -/
def rowReplacement? (n : Nat) : Option Nat :=
  replacedRows.findSome? fun (first, last, stride, target, step) =>
    if first ≤ n && n ≤ last && (n - first) % stride = 0 then
      some (target + (n - first) / stride * step)
    else none

/-- The one character that replaces another. -/
def singleReplacement? (n : Nat) : Option Nat :=
  rowReplacement? n <|> replacedSingly.lookup n <|> replacedIdeographs.lookup n <|>
    replacedRareIdeographs.lookup n

/-- What a character beyond ASCII is replaced by. -/
def replacement? (n : Nat) : Option (List Nat) :=
  (singleReplacement? n).map ([·]) <|> replacedLigatures.lookup n <|> replacedBySeveral.lookup n

/-- The characters that stand for a character in a domain name, or nothing if it may not occur.
In ASCII, letters lose their case and everything else stays. -/
def mapping? (c : Char) : Option (List Char) :=
  let n := c.toNat
  if n < 0x80 then some [c.toLower]
  else if inRanges ignoredRanges n then some []
  else
    match replacement? n with
    | some ms => some (ms.map Char.ofNat)
    | none => if inRanges keptRanges n then some [c] else none

end MethodRoutes.Domain
