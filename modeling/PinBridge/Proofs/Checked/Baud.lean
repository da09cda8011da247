import PinBridge.Proofs.Baud.Near
import PinBridge.Proofs.Checked.Basic

/-!
# Baud rates in machine words

The search for a divisor on words of 32 bits, with the tables of the eighths that it looks values up
in, and the comparison of two rates on words of 64 bits. For no chip and no rate that a request can
be for does a number leave its word, is anything divided by zero or taken below it, or an index
beyond its table:

* `ofRate?_eq` : the search has a result, and it is the one of `Baud.Setting.ofRate?`.
* `withinTolerance_eq` : so has the comparison.

What keeps the later searches from dividing by zero is that only rates below the three fastest ones
come to them (`Baud.Clock.Regular.divisor_usable`).
-/

namespace PinBridge.Checked

open Baud (Choice Clock Setting)

/-! ### Codes -/

/-- The codes of the eighths. -/
def fractionCodes : List Nat := [0, 3, 2, 4, 1, 5, 6, 7]

/-- How far an early chip goes down, for each of the eighths. -/
def excesses : List Nat := [0, 0, 0, 1, 0, 3, 2, 1]

/-- How far an early chip goes up, for each of the eighths. -/
def shortfalls : List Nat := [0, 0, 0, 1, 0, 1, 2, 3]

/-- The code of a divisor in eighths. -/
def encode (divisor : Nat) : Option Nat := do
  let code ← fractionCodes[divisor % 8]?
  fits 32 (divisor / 8 + (← fits 32 (code * 0x4000)))

theorem getElem?_fractionCodes (divisor : Nat) :
    fractionCodes[divisor % 8]? = some (Baud.fractionCode divisor) := by
  have htable : ∀ r < 8, fractionCodes[r]? = some (Baud.fractionCode r) := by decide
  rw [htable _ (Nat.mod_lt _ (by decide)), Baud.fractionCode_mod]

theorem getElem?_excesses (quotient : Nat) :
    excesses[quotient % 8]? = some (Baud.excess quotient) := by
  have htable : ∀ r < 8, excesses[r]? = some (Baud.excess r) := by decide
  rw [htable _ (Nat.mod_lt _ (by decide)), Baud.excess_mod]

theorem getElem?_shortfalls (quotient : Nat) :
    shortfalls[quotient % 8]? = some (Baud.shortfall quotient) := by
  have htable : ∀ r < 8, shortfalls[r]? = some (Baud.shortfall r) := by decide
  rw [htable _ (Nat.mod_lt _ (by decide)), Baud.shortfall_mod]

theorem shortfall_le (quotient : Nat) : Baud.shortfall quotient ≤ 3 := by
  have htable : ∀ r < 8, Baud.shortfall r ≤ 3 := by decide
  rw [← Baud.shortfall_mod]
  exact htable _ (Nat.mod_lt _ (by decide))

theorem encode_eq {divisor : Nat} (h : divisor < 0x20000) :
    encode divisor = some (Baud.encode divisor) := by
  have hcode := (Baud.fractionCode_spec divisor).1
  have hshifted : Baud.fractionCode divisor * 0x4000 < 2 ^ 32 := by omega
  have hsum : divisor / 8 + Baud.fractionCode divisor * 0x4000 < 2 ^ 32 := by omega
  unfold encode
  rw [getElem?_fractionCodes, Option.bind_eq_bind, Option.bind_some, fits_of_lt hshifted,
    Option.bind_some, fits_of_lt hsum]
  rfl

/-! ### Early chips -/

/-- The divisor that an early chip can have next to `base + step`. -/
def slowCandidate (base step : Nat) : Option Nat := do
  let next ← fits 32 (base + step)
  if next ≤ 8 then return 8
  else if base < 16 then return 16
  else
    let up ← shortfalls[next % 8]?
    return min (← fits 32 (next + up)) Baud.slowLimit

/-- The rate of a divisor on an early chip, rounded half up. -/
def slowRate (divisor : Nat) : Option Nat := do
  div (← fits 32 (Baud.slowClock + divisor / 2)) divisor

/-- The choice of an early chip for a rate. -/
def slowSearch (rate : Nat) : Option Choice := do
  let quotient ← div Baud.slowClock rate
  let base ← sub quotient (← excesses[quotient % 8]?)
  let first ← slowCandidate base 0
  let second ← slowCandidate base 1
  let firstRate ← slowRate first
  let secondRate ← slowRate second
  let isSecond := decide (Baud.distance secondRate rate < Baud.distance firstRate rate)
  let divisor := if isSecond then second else first
  let code ← encode divisor
  return {
    actual := if isSecond then secondRate else firstRate
    code := if code = 1 then 0 else if code = 0x4001 then 1 else code }

theorem slowCandidate_eq {base step : Nat} (h : base + step < 2 ^ 31) :
    slowCandidate base step = some (Baud.slowCandidate base step) := by
  have hup := shortfall_le (base + step)
  have hnext : base + step < 2 ^ 32 := by omega
  have hsum : base + step + Baud.shortfall (base + step) < 2 ^ 32 := by omega
  unfold slowCandidate Baud.slowCandidate
  rw [fits_of_lt hnext]
  change (if base + step ≤ 8 then some 8 else if base < 16 then some 16 else
    shortfalls[(base + step) % 8]?.bind _) = _
  rw [getElem?_shortfalls]
  change (if base + step ≤ 8 then some 8 else if base < 16 then some 16 else
    (fits 32 _).bind _) = _
  rw [fits_of_lt hsum]
  split
  · rfl
  · split <;> rfl

theorem slowRate_eq {divisor : Nat} (hpos : 0 < divisor) (h : divisor < 0x20000) :
    slowRate divisor = some (Baud.slowRate divisor) := by
  have hsum : Baud.slowClock + divisor / 2 < 2 ^ 32 := by
    have hclock : Baud.slowClock = 24000000 := rfl
    omega
  unfold slowRate
  rw [fits_of_lt hsum]
  exact div_of_pos hpos

theorem slowCandidate_bounds (base step : Nat) :
    0 < Baud.slowCandidate base step ∧ Baud.slowCandidate base step < 0x20000 := by
  have h := Baud.slowCandidate_usable base step
  omega

theorem slowSearch_eq {rate : Nat} (hrate : 0 < rate) :
    slowSearch rate = some (Baud.slowSearch rate) := by
  have hclock : Baud.slowClock = 24000000 := rfl
  have hquotient : Baud.slowClock / rate ≤ 24000000 := Nat.div_le_self _ _
  have hexcess : Baud.excess (Baud.slowClock / rate) ≤ Baud.slowClock / rate :=
    Nat.le_trans (Baud.excess_le _).2 (Nat.mod_le _ _)
  obtain ⟨hpos₀, hlt₀⟩ := slowCandidate_bounds
    (Baud.slowClock / rate - Baud.excess (Baud.slowClock / rate)) 0
  obtain ⟨hpos₁, hlt₁⟩ := slowCandidate_bounds
    (Baud.slowClock / rate - Baud.excess (Baud.slowClock / rate)) 1
  unfold slowSearch Baud.slowSearch Baud.slowDivisor Baud.slowCode
  simp only [div_of_pos hrate, getElem?_excesses, sub_of_le hexcess, Option.bind_eq_bind,
    Option.bind_some]
  rw [slowCandidate_eq (by omega), slowCandidate_eq (by omega)]
  simp only [slowRate_eq hpos₀ hlt₀, slowRate_eq hpos₁ hlt₁, Option.bind_some, decide_eq_true_eq]
  split
  · rw [encode_eq hlt₁]
    rfl
  · rw [encode_eq hlt₀]
    rfl

/-! ### Later chips -/

/-- The rates that a clock divided by 1, 1.5 and 2 gives, with their codes. -/
def fastest (c : Clock) : Option (List Choice) := do
  let first ← div c.rate c.prescale
  let second ← div c.rate (← fits 32 (c.prescale + c.prescale / 2))
  let third ← div c.rate (← fits 32 (2 * c.prescale))
  return [⟨first, 0⟩, ⟨second, 1⟩, ⟨third, 2⟩]

/-- Sixteen times the clock by its fixed factor. -/
def doubled (c : Clock) : Option Nat := do div (← fits 32 (c.rate * 16)) c.prescale

/-- Half of a number, rounded half up. -/
def halve (n : Nat) : Option Nat := fits 32 (n / 2 + n % 2)

/-- The divisor in eighths that a clock uses for a rate below its fastest ones. -/
def clockDivisor (c : Clock) (rate : Nat) : Option Nat := do
  let divisor ← halve (← div (← doubled c) rate)
  return if divisor > 0x20000 then 0x1FFFF else divisor

/-- The choice of a later chip for a rate on one of its clocks. -/
def clockSearch (c : Clock) (rate : Nat) : Option Choice := do
  match (← fastest c).find? fun choice => choice.actual ≤ rate with
  | some choice => return choice
  | none =>
    let divisor ← clockDivisor c rate
    let actual ← halve (← div (← doubled c) divisor)
    return ⟨actual, ← encode divisor⟩

/-- **A clock whose numbers are small**: what is computed from them has room in a word. -/
structure Small (c : Clock) : Prop where
  prescale : 0 < c.prescale ∧ 2 * c.prescale < 2 ^ 32
  rate : c.rate * 16 < 2 ^ 32

theorem mainClock_small : Small Baud.mainClock := ⟨by decide, by decide⟩

theorem fastClock_small : Small Baud.fastClock := ⟨by decide, by decide⟩

theorem halve_eq {n : Nat} (h : n < 2 ^ 32) : halve n = some (Baud.halve n) :=
  fits_of_lt (by omega)

namespace Small

variable {c : Clock} {rate : Nat}

theorem fastest_eq (small : Small c) : fastest c = some c.fastest := by
  obtain ⟨hpos, hlt⟩ := small.prescale
  have hhalf : c.prescale + c.prescale / 2 < 2 ^ 32 := by omega
  unfold fastest Clock.fastest
  simp only [div_of_pos hpos, fits_of_lt hhalf, fits_of_lt hlt, Option.bind_eq_bind,
    Option.bind_some]
  rw [div_of_pos (by omega), div_of_pos (by omega)]
  rfl

theorem doubled_eq (small : Small c) : doubled c = some c.doubled := by
  unfold doubled
  rw [fits_of_lt small.rate]
  exact div_of_pos small.prescale.1

theorem doubled_lt (small : Small c) : c.doubled < 2 ^ 32 :=
  Nat.lt_of_le_of_lt (Nat.div_le_self _ _) small.rate

theorem clockDivisor_eq (small : Small c) (hrate : 0 < rate) :
    clockDivisor c rate = some (c.divisor rate) := by
  have hquotient : c.doubled / rate < 2 ^ 32 :=
    Nat.lt_of_le_of_lt (Nat.div_le_self _ _) small.doubled_lt
  unfold clockDivisor
  simp only [small.doubled_eq, div_of_pos hrate, halve_eq hquotient, Option.bind_eq_bind,
    Option.bind_some]
  rfl

/-- A rate below the three fastest has a divisor other than zero. -/
theorem clockSearch_eq (small : Small c) (regular : c.Regular) (hrate : 0 < rate) :
    clockSearch c rate = some (Baud.clockSearch c rate) := by
  unfold clockSearch Baud.clockSearch
  rw [small.fastest_eq]
  change (match c.fastest.find? _ with | some choice => some choice | none => _) = _
  cases hfound : c.fastest.find? fun choice => choice.actual ≤ rate with
  | some choice => rfl
  | none =>
    have hslow : rate < Baud.rateOf c.reference 16 := by
      rw [regular.fastest, List.find?_eq_none] at hfound
      have hthird := hfound (.ofDivisor c.reference 16) (by simp)
      rw [decide_eq_true_iff, Nat.not_le] at hthird
      exact hthird
    obtain ⟨hlow, hhigh⟩ := regular.divisor_usable hrate hslow
    have hquotient : c.doubled / c.divisor rate < 2 ^ 32 :=
      Nat.lt_of_le_of_lt (Nat.div_le_self _ _) small.doubled_lt
    simp only [small.clockDivisor_eq hrate, small.doubled_eq, Option.bind_eq_bind,
      Option.bind_some]
    rw [div_of_pos (by omega)]
    simp only [halve_eq hquotient, encode_eq hhigh, Option.bind_some]
    rfl

end Small

/-! ### Requests -/

/-- Whether a high-speed chip takes its second clock for a rate. -/
def usesFastClock (rate : Nat) : Option Bool := do
  return decide (Baud.fastClock.rate / 0x3FFF < (← fits 64 (rate * 10)))

/-- A choice with the bit that selects the second clock. -/
def selectFast (choice : Choice) : Option Choice := do
  let code ← fits 32 (choice.code + Baud.fastClockBit)
  return ⟨choice.actual, code⟩

/-- The choice of a chip for a rate. -/
def search (chip : Chip) (rate : Nat) : Option Choice := do
  if chip.isHighSpeed then
    if ← usesFastClock rate then selectFast (← clockSearch Baud.fastClock rate)
    else clockSearch Baud.mainClock rate
  else if chip = .am then slowSearch rate
  else clockSearch Baud.mainClock rate

/-- The setting for a rate on a channel of a chip; there is none for the rate zero. -/
def ofRate? (chip : Chip) (channel : UInt16) (rate : Nat) : Option (Option Setting) :=
  if rate = 0 then some none
  else do
    let choice ← search chip rate
    return if choice.actual = 0 then none else some (.ofChoice chip channel choice)

/-- Whether a rate is close enough to the one asked for. -/
def withinTolerance (requested actual : Nat) : Option Bool := do
  if (← fits 64 (actual * 2)) < requested then return false
  else if actual < requested then
    return decide ((← fits 64 (requested * 20)) ≤ (← fits 64 (actual * 21)))
  else return decide ((← fits 64 (actual * 20)) ≤ (← fits 64 (requested * 21)))

theorem usesFastClock_eq {rate : Nat} (h : rate < 2 ^ 32) :
    usesFastClock rate = some (Baud.usesFastClock rate) := by
  have hten : rate * 10 < 2 ^ 64 := by omega
  unfold usesFastClock
  rw [fits_of_lt hten]
  rfl

theorem selectFast_eq {choice : Choice} (h : choice.code < 0x20000) :
    selectFast choice = some ⟨choice.actual, choice.code + Baud.fastClockBit⟩ := by
  have hbit : Baud.fastClockBit = 0x20000 := rfl
  have hsum : choice.code + Baud.fastClockBit < 2 ^ 32 := by omega
  unfold selectFast
  rw [fits_of_lt hsum]
  rfl

theorem search_eq (chip : Chip) {rate : Nat} (hpos : 0 < rate) (hrate : rate < 2 ^ 32) :
    search chip rate = some (Baud.search chip rate) := by
  have hcode : (Baud.clockSearch Baud.fastClock rate).code < 0x20000 := by
    rw [Baud.fastClock_regular.clockSearch_eq hpos]
    exact Baud.codeOf_lt (Baud.fastClock_regular.chosen_usable hpos)
  have hfast : (clockSearch Baud.fastClock rate >>= selectFast) =
      some ⟨(Baud.clockSearch Baud.fastClock rate).actual,
        (Baud.clockSearch Baud.fastClock rate).code + Baud.fastClockBit⟩ := by
    rw [fastClock_small.clockSearch_eq Baud.fastClock_regular hpos, Option.bind_eq_bind,
      Option.bind_some, selectFast_eq hcode]
  unfold search Baud.search
  rw [usesFastClock_eq hrate, hfast, slowSearch_eq hpos,
    mainClock_small.clockSearch_eq Baud.mainClock_regular hpos]
  cases hhigh : chip.isHighSpeed with
  | true =>
    have ham : chip ≠ .am := by
      rintro rfl
      cases hhigh
    rw [if_pos rfl, Bool.true_and, if_neg ham]
    exact (apply_ite some _ _ _).symm
  | false =>
    rw [if_neg Bool.false_ne_true, Bool.false_and, if_neg Bool.false_ne_true]
    exact (apply_ite some _ _ _).symm

/-- **The search stays within its words** for every rate that has 32 bits. -/
theorem ofRate?_eq (chip : Chip) (channel : UInt16) {rate : Nat} (hrate : rate < 2 ^ 32) :
    ofRate? chip channel rate = some (Setting.ofRate? chip channel rate) := by
  unfold ofRate? Setting.ofRate?
  by_cases hzero : rate = 0
  · rw [if_pos hzero, if_pos hzero]
  · rw [if_neg hzero, if_neg hzero, search_eq chip (Nat.pos_of_ne_zero hzero) hrate]
    rfl

/-- A rate that a chip achieves has 32 bits. -/
theorem actual_lt {chip : Chip} {channel : UInt16} {rate : Nat} {setting : Setting}
    (h : Setting.ofRate? chip channel rate = some setting) : setting.actual < 2 ^ 32 := by
  have hpos : 0 < rate := by
    refine Nat.pos_of_ne_zero fun hzero => ?_
    rw [hzero] at h
    cases h
  have hdivisor := (Baud.divisorFor_usable chip hpos).bounds
  have hrate : ∀ reference ≤ 96000000,
      Baud.rateOf reference (Baud.divisorFor chip rate) < 2 ^ 32 := by
    intro reference hreference
    unfold Baud.rateOf
    exact Nat.lt_of_le_of_lt (Nat.div_le_self _ _) (by omega)
  rw [Baud.ofRate?_eq chip channel hpos] at h
  cases h
  change (Baud.search chip rate).actual < _
  rw [Baud.search_eq chip hpos]
  split
  · exact hrate _ (by decide)
  · exact hrate _ (by decide)

/-- **The comparison stays within its words** for rates that have 32 bits. -/
theorem withinTolerance_eq {requested actual : Nat} (hrequested : requested < 2 ^ 32)
    (hactual : actual < 2 ^ 32) :
    withinTolerance requested actual = some (Baud.withinTolerance requested actual) := by
  have h₁ : actual * 2 < 2 ^ 64 := by omega
  have h₂ : requested * 20 < 2 ^ 64 := by omega
  have h₃ : actual * 21 < 2 ^ 64 := by omega
  have h₄ : actual * 20 < 2 ^ 64 := by omega
  have h₅ : requested * 21 < 2 ^ 64 := by omega
  unfold withinTolerance Baud.withinTolerance
  simp only [fits_of_lt h₁, fits_of_lt h₂, fits_of_lt h₃, fits_of_lt h₄, fits_of_lt h₅,
    Option.bind_eq_bind, Option.bind_some]
  split
  · rfl
  · split <;> rfl

end PinBridge.Checked
