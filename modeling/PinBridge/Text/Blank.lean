import PinBridge.Text.CharRanges

/-!
# Blanks

The characters that leave a gap in a line or end it: tab, space, the line ends, and the spaces and
separators beyond ASCII. A zero-width space is none of them. `Blank.trim` takes the blanks off both
ends of a text.
-/

namespace PinBridge.Blank

/-- The blanks, in increasing order. -/
def ranges : CharRanges :=
  [(0x9, 0xd), (0x20, 0x20), (0x85, 0x85), (0xa0, 0xa0), (0x1680, 0x1680), (0x2000, 0x200a),
    (0x2028, 0x2029), (0x202f, 0x202f), (0x205f, 0x205f), (0x3000, 0x3000)]

/-- Whether a character is a blank. -/
def isBlank (c : Char) : Bool := ranges.has c

/-- Characters without the blanks in front of them. -/
def trimFront (cs : List Char) : List Char := cs.dropWhile isBlank

/-- The text without the blanks at its two ends. -/
def trim (s : String) : String :=
  String.ofList (trimFront (trimFront s.toList).reverse).reverse

end PinBridge.Blank
