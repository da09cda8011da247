import PinBridge.Chip

/-!
# Baud-rate divisors

A chip makes its bit clock by dividing a reference clock, and takes the divisor in *eighths*. The
integer part of a divisor goes into the low fourteen bits of an 18-bit code, the eighths above it
under a code of their own (`fractionCode`), and three fast rates have the codes 0, 1 and 2. The
searches `slowSearch` and `clockSearch` choose the divisor for a rate on an early chip and on all
later ones, and `Setting.ofRate?` lays the code out over the two words of a request.
`withinTolerance` bounds how far the achieved rate may be from the one asked for.
-/

namespace PinBridge.Baud

/-- A divisor found for a rate: the rate it achieves and its 18-bit code. -/
structure Choice where
  actual : Nat
  code : Nat
  deriving DecidableEq

/-- The code of the eighths of a divisor. -/
def fractionCode (divisor : Nat) : Nat :=
  match divisor % 8 with
  | 0 => 0
  | 1 => 3
  | 2 => 2
  | 3 => 4
  | 4 => 1
  | 5 => 5
  | 6 => 6
  | _ => 7

/-- The code of a divisor in eighths. -/
def encode (divisor : Nat) : Nat := divisor / 8 + fractionCode divisor * 0x4000

/-! ## Early chips -/

/-- Eight times the fastest rate of an early chip: a divisor in eighths gives its quotient. -/
def slowClock : Nat := 24000000

/-- How far a divisor lies above the next lower one whose eighths an early chip has. -/
def excess (divisor : Nat) : Nat :=
  match divisor % 8 with
  | 3 => 1
  | 5 => 3
  | 6 => 2
  | 7 => 1
  | _ => 0

/-- How far a divisor lies below the next higher one whose eighths an early chip has. -/
def shortfall (divisor : Nat) : Nat :=
  match divisor % 8 with
  | 3 => 1
  | 5 => 1
  | 6 => 2
  | 7 => 3
  | _ => 0

/-- The largest divisor of an early chip, in eighths. -/
def slowLimit : Nat := 0x1FFF8

/-- The divisor that an early chip can have next to `base + step`. -/
def slowCandidate (base step : Nat) : Nat :=
  if base + step ≤ 8 then 8
  else if base < 16 then 16
  else min (base + step + shortfall (base + step)) slowLimit

/-- The rate of a divisor on an early chip, rounded half up. -/
def slowRate (divisor : Nat) : Nat := (slowClock + divisor / 2) / divisor

/-- The distance between two rates. -/
def distance (a b : Nat) : Nat := (a - b) + (b - a)

/-- The divisor that an early chip uses for a rate: the nearer of two candidates, and of two as
near the first. -/
def slowDivisor (rate : Nat) : Nat :=
  let quotient := slowClock / rate
  let base := quotient - excess quotient
  let first := slowCandidate base 0
  let second := slowCandidate base 1
  if distance (slowRate second) rate < distance (slowRate first) rate then second else first

/-- The code of a divisor on an early chip, where 1 and 1.5 have codes of their own. -/
def slowCode (divisor : Nat) : Nat :=
  let code := encode divisor
  if code = 1 then 0 else if code = 0x4001 then 1 else code

/-- The choice of an early chip for a rate. -/
def slowSearch (rate : Nat) : Choice :=
  let divisor := slowDivisor rate
  ⟨slowRate divisor, slowCode divisor⟩

/-! ## Later chips -/

/-- A reference clock and the fixed factor it is divided by before the divisor. -/
structure Clock where
  rate : Nat
  prescale : Nat
  deriving DecidableEq

/-- The clock that every later chip has. -/
def mainClock : Clock := ⟨48000000, 16⟩

/-- The second clock of the high-speed chips. -/
def fastClock : Clock := ⟨120000000, 10⟩

/-- Half of a number, rounded half up. -/
def halve (n : Nat) : Nat := n / 2 + n % 2

/-- The rates that a clock divided by 1, 1.5 and 2 gives, with their codes. -/
def Clock.fastest (c : Clock) : List Choice :=
  [⟨c.rate / c.prescale, 0⟩, ⟨c.rate / (c.prescale + c.prescale / 2), 1⟩,
    ⟨c.rate / (2 * c.prescale), 2⟩]

/-- Sixteen times the clock by its fixed factor: a divisor in eighths gives half of its quotient. -/
def Clock.doubled (c : Clock) : Nat := c.rate * 16 / c.prescale

/-- The divisor in eighths that a clock uses for a rate below its fastest ones. -/
def Clock.divisor (c : Clock) (rate : Nat) : Nat :=
  let divisor := halve (c.doubled / rate)
  if divisor > 0x20000 then 0x1FFFF else divisor

/-- The choice of a later chip for a rate on one of its clocks. -/
def clockSearch (c : Clock) (rate : Nat) : Choice :=
  match c.fastest.find? fun choice => choice.actual ≤ rate with
  | some choice => choice
  | none =>
    let divisor := c.divisor rate
    ⟨halve (c.doubled / divisor), encode divisor⟩

/-! ## Requests -/

/-- Whether a high-speed chip takes its second clock for a rate: the first reaches lower. -/
def usesFastClock (rate : Nat) : Bool := fastClock.rate / 0x3FFF < rate * 10

/-- The bit of the code that selects the second clock. -/
def fastClockBit : Nat := 0x20000

/-- The choice of a chip for a rate. -/
def search (chip : Chip) (rate : Nat) : Choice :=
  if chip.isHighSpeed && usesFastClock rate then
    let choice := clockSearch fastClock rate
    ⟨choice.actual, choice.code + fastClockBit⟩
  else if chip = .am then slowSearch rate
  else clockSearch mainClock rate

/-- A rate as a request carries it, with the rate that it achieves. -/
structure Setting where
  actual : Nat
  value : UInt16
  index : UInt16
  deriving DecidableEq

namespace Setting

/-- The code over the two words of a request: a high-speed chip has its channel in the low
byte of the second word, and the rest of the code above it. -/
def ofChoice (chip : Chip) (channel : UInt16) (choice : Choice) : Setting where
  actual := choice.actual
  value := UInt16.ofNat choice.code
  index :=
    if chip.isHighSpeed then UInt16.ofNat (choice.code / 0x10000 * 0x100) ||| channel
    else UInt16.ofNat (choice.code / 0x10000)

/-- The setting for a rate on a channel of a chip; there is none for the rate zero. -/
def ofRate? (chip : Chip) (channel : UInt16) (rate : Nat) : Option Setting :=
  if rate = 0 then none
  else
    let choice := search chip rate
    if choice.actual = 0 then none else some (ofChoice chip channel choice)

end Setting

/-- Whether a rate is close enough to the one asked for: the two differ by no more than a twentieth
of the smaller one. -/
def withinTolerance (requested actual : Nat) : Bool :=
  if actual * 2 < requested then false
  else if actual < requested then decide (requested * 20 ≤ actual * 21)
  else decide (actual * 20 ≤ requested * 21)

end PinBridge.Baud
