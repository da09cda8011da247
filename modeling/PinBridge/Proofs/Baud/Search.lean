import PinBridge.Proofs.Baud.Code

/-!
# What the searches find

Each search for a divisor ends in one that the chip can have (`Usable`), with the code of that
divisor and the rate that its clock gives for it: `slowSearch_eq` for early chips and
`clockSearch_eq` for later ones. `divisorFor` names the divisor, and `search_eq` has all chips.
-/

namespace PinBridge.Baud

/-- The choice of a divisor on a clock. -/
def Choice.ofDivisor (reference divisor : Nat) : Choice :=
  ⟨rateOf reference divisor, codeOf divisor⟩

/-! ### Rounding -/

theorem halve_eq (n : Nat) : halve n = (n + 1) / 2 := by
  unfold halve
  omega

/-- To halve a quotient is to divide and round half up. -/
theorem halve_div {divisor : Nat} (n : Nat) (h : 0 < divisor) :
    halve (2 * n / divisor) = rateOf n divisor := by
  unfold rateOf
  rw [halve_eq, ← Nat.add_div_right _ h, Nat.div_div_eq_div_mul, Nat.mul_comm divisor]

/-- So is to add half of the divisor first. -/
theorem slowRate_eq (divisor : Nat) : slowRate divisor = rateOf slowClock divisor := by
  have hhalf : (2 * slowClock + divisor) / 2 = slowClock + divisor / 2 := by omega
  unfold slowRate rateOf
  rw [← Nat.div_div_eq_div_mul, hhalf]

/-! ### Early chips -/

theorem slowCandidate_usable (base step : Nat) :
    slowCandidate base step = 8 ∨
      (16 ≤ slowCandidate base step ∧ slowCandidate base step < 0x20000) := by
  unfold slowCandidate slowLimit
  split
  · exact .inl rfl
  · split
    · exact .inr (by omega)
    · exact .inr (by omega)

theorem slowDivisor_usable (rate : Nat) :
    slowDivisor rate = 8 ∨ (16 ≤ slowDivisor rate ∧ slowDivisor rate < 0x20000) := by
  unfold slowDivisor
  simp only
  split
  · exact slowCandidate_usable _ _
  · exact slowCandidate_usable _ _

/-- An early chip has the code of the divisor. -/
theorem slowCode_eq {divisor : Nat} (h : divisor = 8 ∨ (16 ≤ divisor ∧ divisor < 0x20000)) :
    slowCode divisor = codeOf divisor := by
  rcases h with rfl | ⟨hlow, hhigh⟩
  · rfl
  · have hfraction := (fractionCode_spec divisor).1
    unfold slowCode codeOf
    rw [if_neg (by omega : divisor ≠ 8), if_neg (by omega : divisor ≠ 12)]
    unfold encode
    simp only
    rw [if_neg (by omega), if_neg (by omega)]

theorem slowSearch_eq (rate : Nat) :
    slowSearch rate = .ofDivisor slowClock (slowDivisor rate) := by
  unfold slowSearch Choice.ofDivisor
  simp only
  rw [slowRate_eq, slowCode_eq (slowDivisor_usable rate)]

/-! ### Later chips -/

/-- The rate that a clock gives for a divisor of one eighth. -/
def Clock.reference (c : Clock) : Nat := c.doubled / 2

/-- The divisor that a later chip takes on a clock. -/
def Clock.chosen (c : Clock) (rate : Nat) : Nat :=
  if rateOf c.reference 8 ≤ rate then 8
  else if rateOf c.reference 12 ≤ rate then 12
  else if rateOf c.reference 16 ≤ rate then 16
  else c.divisor rate

/-- **What the two clocks have in common**: the rates with codes of their own are those of the
divisors 1, 1.5 and 2, and no rate calls for the one divisor that fourteen bits do not hold. -/
structure Clock.Regular (c : Clock) : Prop where
  fastest : c.fastest =
    [.ofDivisor c.reference 8, .ofDivisor c.reference 12, .ofDivisor c.reference 16]
  doubled : c.doubled = 2 * c.reference
  gap : ∀ rate, halve (c.doubled / rate) ≠ 0x20000

/-- The rates between which a divisor would be 0x20000 are none. -/
theorem halve_div_ne {n rate : Nat} (hgap : ∀ r, r * 0x3FFFF ≤ n → n < r * 0x40001 → False) :
    halve (n / rate) ≠ 0x20000 := by
  intro h
  rw [halve_eq] at h
  have hquotient : 0x3FFFF ≤ n / rate ∧ n / rate ≤ 0x40000 := by omega
  have hrate : 0 < rate := by
    rcases Nat.eq_zero_or_pos rate with rfl | hpos
    · rw [Nat.div_zero] at hquotient
      omega
    · exact hpos
  have hlow : 0x3FFFF * rate ≤ n := (Nat.le_div_iff_mul_le hrate).mp hquotient.1
  have hhigh : n < 0x40001 * rate := (Nat.div_lt_iff_lt_mul hrate).mp (by omega)
  exact hgap rate (by omega) (by omega)

theorem mainClock_regular : mainClock.Regular where
  fastest := rfl
  doubled := rfl
  gap rate := by
    refine halve_div_ne fun r hlow hhigh => ?_
    have hdoubled : mainClock.doubled = 48000000 := rfl
    omega

theorem fastClock_regular : fastClock.Regular where
  fastest := rfl
  doubled := rfl
  gap rate := by
    refine halve_div_ne fun r hlow hhigh => ?_
    have hdoubled : fastClock.doubled = 192000000 := rfl
    omega

namespace Clock.Regular

variable {c : Clock} {rate : Nat}

/-- **The divisor that is searched for** is 2 at least, and its integer part has room in fourteen
bits. -/
theorem divisor_usable (hc : c.Regular) (hrate : 0 < rate) (hslow : rate < rateOf c.reference 16) :
    16 ≤ c.divisor rate ∧ c.divisor rate < 0x20000 := by
  have hgap := hc.gap rate
  have hlow : 16 ≤ halve (c.doubled / rate) := by
    have hslow : rate + 1 ≤ (2 * c.reference + 16) / (2 * 16) := hslow
    have hmul : (rate + 1) * (2 * 16) ≤ 2 * c.reference + 16 :=
      (Nat.le_div_iff_mul_le (by decide)).mp hslow
    have hquotient : 32 ≤ c.doubled / rate := by
      rw [Nat.le_div_iff_mul_le hrate, hc.doubled]
      omega
    rw [halve_eq]
    omega
  unfold Clock.divisor
  simp only
  split
  · omega
  · omega

theorem chosen_usable (hc : c.Regular) (hrate : 0 < rate) : Usable (c.chosen rate) := by
  unfold Clock.chosen
  split
  · exact .inl rfl
  · split
    · exact .inr (.inl rfl)
    · split
      · exact .inr (.inr (by decide))
      · exact .inr (.inr (hc.divisor_usable hrate (by omega)))

theorem clockSearch_eq (hc : c.Regular) (hrate : 0 < rate) :
    clockSearch c rate = .ofDivisor c.reference (c.chosen rate) := by
  have hactual : ∀ divisor, (Choice.ofDivisor c.reference divisor).actual =
      rateOf c.reference divisor := fun _ => rfl
  unfold clockSearch Clock.chosen
  simp only [hc.fastest, List.find?_cons, hactual]
  by_cases h₁ : rateOf c.reference 8 ≤ rate
  · simp only [h₁, decide_true, if_true]
  · by_cases h₂ : rateOf c.reference 12 ≤ rate
    · simp only [h₁, h₂, decide_true, decide_false, if_true, if_false]
    · by_cases h₃ : rateOf c.reference 16 ≤ rate
      · simp only [h₁, h₂, h₃, decide_true, decide_false, if_true, if_false]
      · have hdivisor := hc.divisor_usable hrate (by omega)
        simp only [h₁, h₂, h₃, decide_false, if_false]
        unfold Choice.ofDivisor codeOf
        rw [if_neg (by omega), if_neg (by omega), ← halve_div _ (by omega), ← hc.doubled]
        rfl

end Clock.Regular

/-! ### All chips -/

/-- Whether a chip takes its second clock for a rate. -/
def takesFastClock (chip : Chip) (rate : Nat) : Bool := chip.isHighSpeed && usesFastClock rate

/-- **The divisor that a chip takes for a rate.** -/
def divisorFor (chip : Chip) (rate : Nat) : Nat :=
  if takesFastClock chip rate then fastClock.chosen rate
  else if chip = .am then slowDivisor rate
  else mainClock.chosen rate

/-- The second clock is that of rates from 733 on. -/
theorem takesFastClock_iff {chip : Chip} {rate : Nat} :
    takesFastClock chip rate ↔ chip.isHighSpeed ∧ 733 ≤ rate := by
  have hclock : fastClock.rate = 120000000 := rfl
  unfold takesFastClock usesFastClock
  rw [Bool.and_eq_true, decide_eq_true_iff, hclock]
  exact and_congr_right fun _ => by omega

theorem divisorFor_usable (chip : Chip) {rate : Nat} (hrate : 0 < rate) :
    Usable (divisorFor chip rate) := by
  unfold divisorFor
  split
  · exact fastClock_regular.chosen_usable hrate
  · split
    · exact (slowDivisor_usable rate).imp_right .inr
    · exact mainClock_regular.chosen_usable hrate

/-- **The choice of a chip for a rate** is that of its divisor, on the clock that its code selects.
-/
theorem search_eq (chip : Chip) {rate : Nat} (hrate : 0 < rate) :
    search chip rate =
      if takesFastClock chip rate then
        ⟨rateOf 96000000 (divisorFor chip rate), codeOf (divisorFor chip rate) + fastClockBit⟩
      else .ofDivisor 24000000 (divisorFor chip rate) := by
  unfold search divisorFor takesFastClock
  by_cases hfast : (chip.isHighSpeed && usesFastClock rate) = true
  · simp only [if_pos hfast]
    rw [fastClock_regular.clockSearch_eq hrate]
    rfl
  · simp only [if_neg hfast]
    split
    · exact slowSearch_eq rate
    · exact mainClock_regular.clockSearch_eq hrate

theorem Usable.bounds {divisor : Nat} (h : Usable divisor) : 8 ≤ divisor ∧ divisor < 0x20000 := by
  unfold Usable at h
  omega

/-- **The code of a choice** has eighteen bits, of which the last one selects the second clock, and
it stands for the divisor and for the rate that the choice reports. -/
theorem search_code (chip : Chip) {rate : Nat} (hrate : 0 < rate) :
    (search chip rate).code < 0x40000 ∧
      (search chip rate).code.testBit 17 = takesFastClock chip rate ∧
      decode (search chip rate).code = divisorFor chip rate ∧
      (search chip rate).actual = decodedRate (search chip rate).code ∧
      0 < (search chip rate).actual := by
  have husable := divisorFor_usable chip hrate
  have hcode := codeOf_lt husable
  have hdecode := decode_codeOf husable
  have hbounds := husable.bounds
  unfold decodedRate reference
  rw [search_eq chip hrate]
  cases takesFastClock chip rate with
  | false =>
    have hbit := testBit_of_lt hcode
    simp only [Bool.false_eq_true, if_false]
    unfold Choice.ofDivisor
    simp only [hbit, hdecode, Bool.false_eq_true, if_false]
    exact ⟨by omega, trivial, trivial, trivial, rateOf_pos (by omega) (by omega)⟩
  | true =>
    have hbit := testBit_add_bit hcode
    simp only [if_true, hbit, decode_add_bit, hdecode]
    refine ⟨?_, trivial, trivial, trivial, rateOf_pos (by omega) (by omega)⟩
    unfold fastClockBit
    omega

/-- **Every rate has a setting**, on any channel whose number has room beside the code. -/
theorem ofRate?_eq (chip : Chip) (channel : UInt16) {rate : Nat} (hrate : 0 < rate) :
    Setting.ofRate? chip channel rate = some (.ofChoice chip channel (search chip rate)) := by
  have hactual := (search_code chip hrate).2.2.2.2
  unfold Setting.ofRate?
  rw [if_neg (by omega)]
  exact if_neg (by omega)

/-- The tolerance is a twentieth of the smaller rate, on both sides. -/
theorem withinTolerance_iff {requested actual : Nat} :
    withinTolerance requested actual ↔
      20 * requested ≤ 21 * actual ∧ 20 * actual ≤ 21 * requested := by
  unfold withinTolerance
  split
  · constructor
    · intro h
      cases h
    · intro h
      omega
  · split
    · rw [decide_eq_true_iff]
      omega
    · rw [decide_eq_true_iff]
      omega

end PinBridge.Baud
