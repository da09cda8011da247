import PinBridge.Proofs.Baud.Near

/-!
# The eighths that an early chip is set to

Of the eight fractions of a divisor an early chip has four, those that neither `excess` nor
`shortfall` moves: 0, 1, 2 and 4 eighths (`usableEighths_iff`). The search starts from the quotient
less its excess, which has one of these or 6 eighths (`roundedDown_mod`), and its first candidate is
usable (`slowCandidate_zero`). The second one is so too, but for one case: next to 4 eighths comes
5, which the shortfall takes to 6 (`slowCandidate_one`). Where that divisor is the nearer one, it is
the one programmed (`TakesSixEighths`).
-/

namespace PinBridge.Baud

/-- **Eighths that an early chip has**: both tables leave the divisor as it is. -/
def UsableEighths (divisor : Nat) : Prop := excess divisor = 0 ∧ shortfall divisor = 0

instance (divisor : Nat) : Decidable (UsableEighths divisor) :=
  inferInstanceAs (Decidable (_ ∧ _))

/-- The quotient of the clock by a rate, less its excess. -/
def roundedDown (rate : Nat) : Nat := slowClock / rate - excess (slowClock / rate)

/-- **The rates for which 6 eighths are taken**: the quotient goes down to 4 eighths, and the
divisor two eighths above it is below the limit and nearer. -/
structure TakesSixEighths (rate : Nat) : Prop where
  half : roundedDown rate % 8 = 4
  two_le : 16 ≤ roundedDown rate
  below : roundedDown rate + 2 < slowLimit
  nearer : distance (slowRate (roundedDown rate + 2)) rate <
    distance (slowRate (roundedDown rate)) rate

variable {base divisor rate : Nat}

/-! ### Usable eighths -/

theorem usableEighths_iff : UsableEighths divisor ↔ divisor % 8 ∈ [0, 1, 2, 4] := by
  have htable : ∀ r < 8, UsableEighths r ↔ r ∈ [0, 1, 2, 4] := by decide
  have hmod := htable (divisor % 8) (Nat.mod_lt _ (by decide))
  unfold UsableEighths at hmod
  rwa [excess_mod, shortfall_mod] at hmod

/-- The eighths after the excess is taken off. -/
theorem roundedDown_mod (rate : Nat) : roundedDown rate % 8 ∈ [0, 1, 2, 4, 6] := by
  have htable : ∀ r < 8, r - excess r ∈ [0, 1, 2, 4, 6] := by decide
  unfold roundedDown
  generalize slowClock / rate = q
  have hmem := htable (q % 8) (Nat.mod_lt _ (by decide))
  have hle := (excess_le q).2
  have hmod : (q - excess q) % 8 = q % 8 - excess q := by omega
  rw [excess_mod] at hmem
  rwa [hmod]

/-- The clamped divisor is usable if the divisor is. -/
theorem usableEighths_min (h : UsableEighths divisor) : UsableEighths (min divisor slowLimit) := by
  rcases Nat.le_total divisor slowLimit with hle | hle
  · rwa [Nat.min_eq_left hle]
  · rw [Nat.min_eq_right hle]
    decide

/-! ### The two candidates -/

/-- From 2 on a candidate is the next divisor from `base + step` on, as far as the table knows. -/
theorem slowCandidate_of_le (hbase : 16 ≤ base) (step : Nat) :
    slowCandidate base step = min (base + step + shortfall (base + step)) slowLimit := by
  unfold slowCandidate
  rw [if_neg (by omega), if_neg (by omega)]

/-- Below 2 a candidate is 1 or 2. -/
theorem usableEighths_of_lt (hbase : base < 16) (step : Nat) :
    UsableEighths (slowCandidate base step) := by
  unfold slowCandidate
  rw [if_pos hbase]
  split
  · decide
  · decide

/-- The first candidate is usable. -/
theorem slowCandidate_zero (hmod : base % 8 ∈ [0, 1, 2, 4, 6]) :
    UsableEighths (slowCandidate base 0) := by
  rcases Nat.lt_or_ge base 16 with hlt | hge
  · exact usableEighths_of_lt hlt 0
  · have htable : ∀ r ∈ [0, 1, 2, 4, 6], (r + shortfall r) % 8 ∈ [0, 1, 2, 4] := by decide
    have heighths := htable _ hmod
    rw [shortfall_mod, Nat.mod_add_mod] at heighths
    rw [slowCandidate_of_le hge]
    exact usableEighths_min (usableEighths_iff.mpr heighths)

/-- **The second candidate is usable**, but for the one next to 4 eighths below the limit. -/
theorem slowCandidate_one (hmod : base % 8 ∈ [0, 1, 2, 4, 6])
    (hnot : ¬ (base % 8 = 4 ∧ 16 ≤ base ∧ base + 2 < slowLimit)) :
    UsableEighths (slowCandidate base 1) := by
  rcases Nat.lt_or_ge base 16 with hlt | hge
  · exact usableEighths_of_lt hlt 1
  · rw [slowCandidate_of_le hge]
    by_cases hhalf : base % 8 = 4
    · -- The limit has no eighths, so what is not below it two eighths further on is above it.
      have hlimit : slowLimit = 0x1FFF8 := rfl
      have hcut : slowLimit ≤ base + 1 + shortfall (base + 1) := by omega
      rw [Nat.min_eq_right hcut]
      decide
    · have htable : ∀ r ∈ [0, 1, 2, 4, 6], r ≠ 4 →
          (r + 1 + shortfall ((r + 1) % 8)) % 8 ∈ [0, 1, 2, 4] := by decide
      have heighths := htable _ hmod hhalf
      rw [Nat.mod_add_mod, shortfall_mod, Nat.add_assoc, Nat.mod_add_mod, ← Nat.add_assoc]
        at heighths
      exact usableEighths_min (usableEighths_iff.mpr heighths)

/-- The candidates at 4 eighths: the second one is two eighths above the first. -/
theorem slowCandidate_half (hhalf : base % 8 = 4) (hge : 16 ≤ base) (hlt : base + 2 < slowLimit) :
    slowCandidate base 0 = base ∧ slowCandidate base 1 = base + 2 := by
  have hfirst : shortfall (base + 0) = 0 := by
    rw [← shortfall_mod, Nat.add_zero, hhalf]
    rfl
  have hsecond : shortfall (base + 1) = 1 := by
    rw [← shortfall_mod, Nat.add_mod, hhalf]
    rfl
  rw [slowCandidate_of_le hge, slowCandidate_of_le hge, hfirst, hsecond]
  exact ⟨Nat.min_eq_left (by omega), Nat.min_eq_left (by omega)⟩

/-! ### The divisor that is taken -/

/-- The divisor of an early chip, by its two candidates. -/
theorem slowDivisor_eq (rate : Nat) : slowDivisor rate =
    if distance (slowRate (slowCandidate (roundedDown rate) 1)) rate <
        distance (slowRate (slowCandidate (roundedDown rate) 0)) rate then
      slowCandidate (roundedDown rate) 1
    else slowCandidate (roundedDown rate) 0 := rfl

/-- The divisor is usable, but for the rates for which 6 eighths are taken. -/
theorem slowDivisor_usableEighths (h : ¬ TakesSixEighths rate) :
    UsableEighths (slowDivisor rate) := by
  have hmod := roundedDown_mod rate
  rw [slowDivisor_eq]
  split
  · next hnearer =>
    refine slowCandidate_one hmod ?_
    rintro ⟨hhalf, hge, hlt⟩
    obtain ⟨hzero, hone⟩ := slowCandidate_half hhalf hge hlt
    rw [hzero, hone] at hnearer
    exact h ⟨hhalf, hge, hlt, hnearer⟩
  · exact slowCandidate_zero hmod

theorem slowDivisor_of_takesSixEighths (h : TakesSixEighths rate) :
    slowDivisor rate = roundedDown rate + 2 := by
  obtain ⟨hzero, hone⟩ := slowCandidate_half h.half h.two_le h.below
  rw [slowDivisor_eq, hzero, hone, if_pos h.nearer]

theorem slowCandidate_le (base step : Nat) : slowCandidate base step ≤ slowLimit := by
  unfold slowCandidate
  split
  · decide
  · split
    · decide
    · exact Nat.min_le_right _ _

theorem slowDivisor_le (rate : Nat) : slowDivisor rate ≤ slowLimit := by
  rw [slowDivisor_eq]
  split
  · exact slowCandidate_le _ _
  · exact slowCandidate_le _ _

/-- An early chip reads the divisor of the search from the request. -/
theorem decode_setting {setting : Setting} (channel : UInt16) (hrate : 0 < rate)
    (h : Setting.ofRate? .am channel rate = some setting) :
    decode (takenCode .am setting.value setting.index) = slowDivisor rate := by
  obtain ⟨hlt, -, hdecode, -, -⟩ := search_code .am hrate
  rw [ofRate?_eq .am channel hrate] at h
  obtain rfl := Option.some.inj h
  -- An early chip has one channel only, so the request does not hold its number.
  show decode (takenCode .am (Setting.ofChoice .am 0 _).value (Setting.ofChoice .am 0 _).index) = _
  rw [takenCode_ofChoice hlt (by decide), hdecode]
  rfl

/-- **The divisor that an early chip is set to** is 1, or 2 at least, and no larger than the limit.
Its eighths are usable just for the rates that do not take 6 eighths, and for those that do it is
two eighths above the quotient rounded down. -/
theorem divisor_of_setting (rate : Nat) (hrate : 0 < rate) (channel : UInt16) :
    ∃ setting, Setting.ofRate? .am channel rate = some setting ∧
      let divisor := decode (takenCode .am setting.value setting.index)
      (divisor = 8 ∨ 16 ≤ divisor) ∧ divisor ≤ slowLimit ∧
        (divisor % 8 ∈ [0, 1, 2, 4] ↔ ¬ TakesSixEighths rate) ∧
        (TakesSixEighths rate → divisor = roundedDown rate + 2) := by
  refine ⟨_, ofRate?_eq .am channel hrate, ?_⟩
  rw [decode_setting channel hrate (ofRate?_eq .am channel hrate)]
  refine ⟨?_, slowDivisor_le rate, ?_, slowDivisor_of_takesSixEighths⟩
  · exact (slowDivisor_usable rate).imp_right And.left
  · rw [← usableEighths_iff]
    refine ⟨fun husable hsix => ?_, slowDivisor_usableEighths⟩
    have hhalf := hsix.half
    rw [usableEighths_iff, slowDivisor_of_takesSixEighths hsix] at husable
    simp only [List.mem_cons, List.not_mem_nil, or_false] at husable
    omega

/-- The rate 9600 divides the clock into a divisor of 4 eighths. -/
theorem divisor_of_setting_9600 : ∃ setting, Setting.ofRate? .am 1 9600 = some setting ∧
    decode (takenCode .am setting.value setting.index) % 8 ∈ [0, 1, 2, 4] := by
  obtain ⟨setting, hsetting, -, -, heighths, -⟩ := divisor_of_setting 9600 (by decide) 1
  refine ⟨setting, hsetting, heighths.mpr fun hsix => ?_⟩
  have hnearer := hsix.nearer
  exact absurd hnearer (by decide)

/-- For the rate 32000 the divisor is 93 and 6 eighths, which both tables would move, and 94 is a
divisor that the chip has. -/
theorem six_eighths_of_32000 :
    (Setting.ofRate? .am 1 32000).map (fun setting => (setting.value, setting.index)) =
      some (0x805D, 1) ∧
    decode (takenCode .am 0x805D 1) = 8 * 93 + 6 ∧
    ¬ UsableEighths (8 * 93 + 6) ∧ UsableEighths (8 * 94) := by
  decide

end PinBridge.Baud
