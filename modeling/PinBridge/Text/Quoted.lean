import PinBridge.Text.Hex
import PinBridge.Text.Unprintable

/-!
# Quoted text

A string in double quotes on one line: the quote, the backslash and the usual control characters
are written as a backslash and a letter, other characters that do not show by their number, and all
else as it is.
-/

namespace PinBridge.Quoted

/-- One character inside quotes. -/
def escape (c : Char) : String :=
  if c = '\x00' then "\\0"
  else if c = '\t' then "\\t"
  else if c = '\n' then "\\n"
  else if c = '\r' then "\\r"
  else if c = '"' then "\\\""
  else if c = '\\' then "\\\\"
  else if Unprintable.isUnprintable c then "\\u\x7b" ++ Hex.padded 1 c.toNat ++ "\x7d"
  else c.toString

/-- The text in quotes. -/
def text (s : String) : String :=
  "\"" ++ String.join (s.toList.map escape) ++ "\""

end PinBridge.Quoted
