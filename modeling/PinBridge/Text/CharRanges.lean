/-!
# Sets of characters

A set of characters given by ranges of code points, as the classes of characters beyond ASCII are.
`CharRanges.has` tells which characters are in it.
-/

namespace PinBridge

/-- A set of characters: the first and the last code point of each range. -/
abbrev CharRanges : Type := List (Nat × Nat)

/-- Whether a character is in the set. -/
def CharRanges.has (ranges : CharRanges) (c : Char) : Bool :=
  ranges.any fun range => range.1 ≤ c.toNat && c.toNat ≤ range.2

end PinBridge
