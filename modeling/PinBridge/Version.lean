/-!
# The library's version

The three numbers of the version and the snapshot it was built from.
-/

namespace PinBridge

/-- A version of the library. -/
structure Version where
  major : Nat
  minor : Nat
  micro : Nat
  /-- The name of the snapshot, where one was built. -/
  snapshot : String
  deriving DecidableEq

namespace Version

/-- The version of this library. -/
def current : Version := ⟨0, 1, 0, "unknown"⟩

/-- The numbers, with points between. -/
def number (v : Version) : String :=
  toString v.major ++ "." ++ toString v.minor ++ "." ++ toString v.micro

end Version

end PinBridge
