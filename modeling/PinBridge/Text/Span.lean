/-!
# Spans of time in words

A span of whole milliseconds is written in seconds from one second on, with as many decimals as it
needs (`1.5s`), in milliseconds below (`250ms`), and an empty span as `0ns`.
-/

namespace PinBridge.Span

/-- The decimals of a fraction of `n` thousandths, with the zeros at the end left out. -/
def decimals (n : Nat) : List Char :=
  let digits := [n / 100 % 10, n / 10 % 10, n % 10].map Nat.digitChar
  (digits.reverse.dropWhile (· == '0')).reverse

/-- A span of so many milliseconds in words. -/
def text (ms : Nat) : String :=
  if ms = 0 then "0ns"
  else if ms < 1000 then toString ms ++ "ms"
  else
    let fraction := decimals (ms % 1000)
    let point := if fraction.isEmpty then "" else "."
    toString (ms / 1000) ++ point ++ String.ofList fraction ++ "s"

end PinBridge.Span
