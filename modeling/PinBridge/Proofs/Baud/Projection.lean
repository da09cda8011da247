import Mathlib.Tactic.SplitIfs
import PinBridge.Proofs.Baud.Near

/-!
# Rates of later chips as a projection

A clock takes a rate to a divisor and the divisor back to a rate, and both steps are the same one:
the reference clock is divided and the quotient rounded half up. This step turns the order round
(`rateOf_anti`), and taken three times it is what it is taken once (`rateOf_rateOf_rateOf`). So
on one clock the rate that is reported grows with the rate asked for
(`Clock.Regular.reported_mono`), and when it is asked for itself the divisor is the same
(`Clock.Regular.chosen_reported`); this goes through the codes of the three fastest divisors and
through the largest divisor that there is room for. Between 732 and 733, where a high-speed chip
changes its clock, both clocks have the very rate that is asked for.

* `monotone_projection` : both laws, for all chips but the early ones.
-/

namespace PinBridge.Baud

/-! ### Rounded quotients -/

/-- A rounded quotient by what it is the nearest to. -/
theorem rateOf_eq {ref c q : Nat} (hc : 0 < c) (hlow : 2 * (c * q) ≤ 2 * ref + c)
    (hhigh : 2 * ref < 2 * (c * q) + c) : rateOf ref c = q := by
  have hdouble : 2 * c * q = 2 * (c * q) := Nat.mul_assoc 2 c q
  have hnext : 2 * c * (q + 1) = 2 * (c * q) + 2 * c := by rw [Nat.mul_add, hdouble, Nat.mul_one]
  unfold rateOf
  rw [Nat.div_eq_iff (by omega : 0 < 2 * c), Nat.mul_comm q]
  omega

/-- **A number that is no larger than its rounded quotient** is the rounded quotient by it. -/
theorem rateOf_rateOf_of_le {ref e : Nat} (he : 0 < e) (hle : e ≤ rateOf ref e) :
    rateOf ref (rateOf ref e) = e := by
  obtain ⟨hlow, hhigh⟩ := rateOf_bounds ref he
  generalize rateOf ref e = d at hle hlow hhigh ⊢
  rw [Nat.mul_comm e d] at hlow hhigh
  exact rateOf_eq (by omega) (by omega) (by omega)

/-- A number that is larger than its rounded quotient has one that is no larger than the quotient
by it. -/
theorem rateOf_le_rateOf {ref e : Nat} (hlt : rateOf ref e < e) (hpos : 0 < rateOf ref e) :
    rateOf ref e ≤ rateOf ref (rateOf ref e) := by
  have hlow := (rateOf_bounds ref (c := e) (by omega)).1
  have hhigh := (rateOf_bounds ref hpos).2
  generalize rateOf ref e = d at hlt hpos hlow hhigh ⊢
  generalize rateOf ref d = r at hhigh ⊢
  refine Nat.le_of_not_lt fun hbelow => ?_
  -- twice the clock would be below `d * (2 * d - 1)` and no less than `(d + 1) * (2 * d - 1)`
  have habove : d * (d + 1) ≤ d * e := Nat.mul_le_mul_left d hlt
  have hunder : d * (r + 1) ≤ d * d := Nat.mul_le_mul_left d hbelow
  have hmore : (2 * d - 1) * (d + 1) ≤ (2 * d - 1) * e := Nat.mul_le_mul_left _ hlt
  rw [Nat.mul_add] at habove hunder
  rw [Nat.sub_mul, Nat.sub_mul, Nat.mul_assoc, Nat.mul_assoc, Nat.mul_add d d 1] at hmore
  rw [Nat.mul_comm e d] at hlow
  omega

/-- **Taken three times, a rounded quotient is what it is taken once.** -/
theorem rateOf_rateOf_rateOf {ref e : Nat} (he : 0 < e) (hpos : 0 < rateOf ref e) :
    rateOf ref (rateOf ref (rateOf ref e)) = rateOf ref e := by
  rcases Nat.lt_or_ge (rateOf ref e) e with hlt | hge
  · exact rateOf_rateOf_of_le hpos (rateOf_le_rateOf hlt hpos)
  · rw [rateOf_rateOf_of_le he hge]

/-! ### One clock -/

/-- A divisor that is not cut down is a rounded quotient. -/
theorem Clock.Regular.divisor_eq {c : Clock} (hc : c.Regular) {rate : Nat} (hrate : 0 < rate) :
    c.divisor rate = if 0x20000 < rateOf c.reference rate then 0x1FFFF
      else rateOf c.reference rate := by
  unfold Clock.divisor
  simp only [hc.doubled, halve_div _ hrate]

/-- The one rounded quotient that would have no code does not come up. -/
theorem Clock.Regular.rateOf_ne {c : Clock} (hc : c.Regular) {rate : Nat} (hrate : 0 < rate) :
    rateOf c.reference rate ≠ 0x20000 := by
  have hgap := hc.gap rate
  rwa [hc.doubled, halve_div _ hrate] at hgap

/-- **The higher the rate, the smaller the divisor.** -/
theorem Clock.Regular.chosen_anti {c : Clock} (hc : c.Regular) {a b : Nat} (ha : 0 < a)
    (hab : a ≤ b) : c.chosen b ≤ c.chosen a := by
  have hsearched : c.divisor b ≤ c.divisor a := by
    have hb : 0 < b := Nat.lt_of_lt_of_le ha hab
    have hquotients : rateOf c.reference b ≤ rateOf c.reference a := rateOf_anti ha hab
    have hgap := hc.rateOf_ne hb
    rw [hc.divisor_eq ha, hc.divisor_eq hb]
    split
    · split
      · exact Nat.le_refl _
      · omega
    · split
      · omega
      · exact hquotients
  have hlarge : ¬ rateOf c.reference 16 ≤ a → 16 ≤ c.divisor a := by
    intro hslow
    exact (hc.divisor_usable ha (by omega)).1
  unfold Clock.chosen
  split_ifs <;> omega

/-- The rate that a clock reports. -/
def Clock.reported (c : Clock) (rate : Nat) : Nat := rateOf c.reference (c.chosen rate)

/-- **The higher the rate asked for, the higher the one that is reported.** -/
theorem Clock.Regular.reported_mono {c : Clock} (hc : c.Regular) {a b : Nat} (ha : 0 < a)
    (hab : a ≤ b) : c.reported a ≤ c.reported b := by
  have hbounds := (hc.chosen_usable (Nat.lt_of_lt_of_le ha hab)).bounds
  exact rateOf_anti (by omega) (hc.chosen_anti ha hab)

/-- **What else the two clocks have in common**: every divisor has a rate, the smallest divisors
have rates of their own, and the rate of the largest one calls for it again. -/
structure Clock.Apart (c : Clock) : Prop where
  positive : 0x20000 ≤ 2 * c.reference
  second : rateOf c.reference 12 < rateOf c.reference 8
  third : rateOf c.reference 16 < rateOf c.reference 12
  searched : rateOf c.reference 17 < rateOf c.reference 16
  largest : 0x20000 < rateOf c.reference (rateOf c.reference 0x1FFFF)

theorem mainClock_apart : mainClock.Apart where
  positive := by decide
  second := by decide
  third := by decide
  searched := by decide
  largest := by decide

theorem fastClock_apart : fastClock.Apart where
  positive := by decide
  second := by decide
  third := by decide
  searched := by decide
  largest := by decide

/-- Below the fastest rates, the rate of a divisor calls for the same divisor. -/
theorem Clock.Regular.divisor_rateOf_divisor {c : Clock} (hc : c.Regular) (apart : c.Apart)
    {rate : Nat} (hrate : 0 < rate) (hslow : rate < rateOf c.reference 16) :
    c.divisor (rateOf c.reference (c.divisor rate)) = c.divisor rate := by
  have hlow := (hc.divisor_usable hrate hslow).1
  have hreference := apart.positive
  rw [hc.divisor_eq hrate] at hlow ⊢
  split
  · have hpos : 0 < rateOf c.reference 0x1FFFF := rateOf_pos (by decide) (by omega)
    rw [hc.divisor_eq hpos, if_pos apart.largest]
  · next hfits =>
    rw [if_neg hfits] at hlow
    have hpos : 0 < rateOf c.reference (rateOf c.reference rate) := rateOf_pos (by omega) (by omega)
    rw [hc.divisor_eq hpos, rateOf_rateOf_rateOf hrate (by omega), if_neg hfits]

/-- **A rate that is reported calls for the divisor that it is the rate of.** -/
theorem Clock.Regular.chosen_reported {c : Clock} (hc : c.Regular) (apart : c.Apart) {rate : Nat}
    (hrate : 0 < rate) : c.chosen (c.reported rate) = c.chosen rate := by
  have hsecond := apart.second
  have hthird := apart.third
  have hsearched := apart.searched
  have h8 : c.chosen (rateOf c.reference 8) = 8 := if_pos (Nat.le_refl _)
  have h12 : c.chosen (rateOf c.reference 12) = 12 := by
    unfold Clock.chosen
    rw [if_neg (by omega), if_pos (Nat.le_refl _)]
  have h16 : c.chosen (rateOf c.reference 16) = 16 := by
    unfold Clock.chosen
    rw [if_neg (by omega), if_neg (by omega), if_pos (Nat.le_refl _)]
  unfold Clock.reported
  by_cases hfirst : rateOf c.reference 8 ≤ rate
  · have hchosen : c.chosen rate = 8 := if_pos hfirst
    rw [hchosen, h8]
  by_cases hnext : rateOf c.reference 12 ≤ rate
  · have hchosen : c.chosen rate = 12 := by
      unfold Clock.chosen
      rw [if_neg hfirst, if_pos hnext]
    rw [hchosen, h12]
  by_cases hlast : rateOf c.reference 16 ≤ rate
  · have hchosen : c.chosen rate = 16 := by
      unfold Clock.chosen
      rw [if_neg hfirst, if_neg hnext, if_pos hlast]
    rw [hchosen, h16]
  have hslow : rate < rateOf c.reference 16 := by omega
  have hchosen : c.chosen rate = c.divisor rate := by
    unfold Clock.chosen
    rw [if_neg hfirst, if_neg hnext, if_neg hlast]
  have hlow := (hc.divisor_usable hrate hslow).1
  rw [hchosen]
  rcases Nat.eq_or_lt_of_le hlow with heq | habove
  · -- the divisor 2 is searched for just below the rate that it is the fastest code of
    rw [← heq, h16]
  · have hbelow : rateOf c.reference (c.divisor rate) ≤ rateOf c.reference 17 :=
      rateOf_anti (by decide) habove
    unfold Clock.chosen
    rw [if_neg (by omega), if_neg (by omega), if_neg (by omega)]
    exact hc.divisor_rateOf_divisor apart hrate hslow

/-! ### All later chips -/

variable {chip : Chip} {a b : Nat}

/-- The choice of a later chip, on one clock or the other. -/
theorem search_later (hchip : chip ≠ .am) (ha : 0 < a) :
    search chip a =
      if takesFastClock chip a then
        ⟨fastClock.reported a, codeOf (fastClock.chosen a) + fastClockBit⟩
      else ⟨mainClock.reported a, codeOf (mainClock.chosen a)⟩ := by
  rw [search_eq chip ha]
  unfold divisorFor
  rw [if_neg hchip]
  split
  · rfl
  · rfl

/-- Where a high-speed chip changes its clock, both clocks have the rate that is asked for. -/
theorem reported_at_change : mainClock.reported 732 = 732 ∧ fastClock.reported 733 = 733 := by
  decide

/-- A high-speed chip that keeps to the main clock has been asked for a low rate. -/
theorem le_of_not_takesFastClock (hhigh : chip.isHighSpeed) (h : takesFastClock chip a = false) :
    a ≤ 732 := by
  refine Nat.le_of_not_lt fun habove => ?_
  rw [takesFastClock_iff.mpr ⟨hhigh, habove⟩] at h
  cases h

/-- **A rate that is reported is on the clock of the rate asked for.** -/
theorem takesFastClock_actual (hchip : chip ≠ .am) (ha : 0 < a) :
    takesFastClock chip (search chip a).actual = takesFastClock chip a := by
  obtain ⟨hmain, hfast⟩ := reported_at_change
  rw [search_later hchip ha]
  cases htakes : takesFastClock chip a with
  | true =>
    obtain ⟨hhigh, h733⟩ := takesFastClock_iff.mp htakes
    have hmono := fastClock_regular.reported_mono (by decide) h733
    exact takesFastClock_iff.mpr ⟨hhigh, hfast ▸ hmono⟩
  | false =>
    refine Bool.eq_false_iff.mpr fun hagain => ?_
    obtain ⟨hhigh, h733⟩ := takesFastClock_iff.mp hagain
    have hmono := mainClock_regular.reported_mono ha (le_of_not_takesFastClock hhigh htakes)
    have h733' : 733 ≤ mainClock.reported a := h733
    omega

theorem actual_mono (hchip : chip ≠ .am) (ha : 0 < a) (hab : a ≤ b) :
    (search chip a).actual ≤ (search chip b).actual := by
  have hb : 0 < b := by omega
  rw [search_later hchip ha, search_later hchip hb]
  cases hlow : takesFastClock chip a with
  | true =>
    obtain ⟨hhigh, h733⟩ := takesFastClock_iff.mp hlow
    rw [takesFastClock_iff.mpr ⟨hhigh, Nat.le_trans h733 hab⟩]
    exact fastClock_regular.reported_mono ha hab
  | false =>
    cases hfast : takesFastClock chip b with
    | false => exact mainClock_regular.reported_mono ha hab
    | true =>
      -- the clock changes between the two rates
      obtain ⟨hhigh, h733⟩ := takesFastClock_iff.mp hfast
      obtain ⟨hmain, hchanged⟩ := reported_at_change
      have hlower := mainClock_regular.reported_mono ha (le_of_not_takesFastClock hhigh hlow)
      have hhigher := fastClock_regular.reported_mono (by decide) h733
      change mainClock.reported a ≤ fastClock.reported b
      omega

/-- **A rate that is reported is chosen for itself**, with the same code. -/
theorem search_actual (hchip : chip ≠ .am) (ha : 0 < a) :
    search chip (search chip a).actual = search chip a := by
  have hpos := (search_code chip ha).2.2.2.2
  have hclock := takesFastClock_actual hchip ha
  rw [search_later hchip hpos, hclock, search_later hchip ha]
  cases takesFastClock chip a with
  | true =>
    have hchosen := fastClock_regular.chosen_reported fastClock_apart ha
    change (⟨rateOf _ (fastClock.chosen (fastClock.reported a)),
      codeOf (fastClock.chosen (fastClock.reported a)) + fastClockBit⟩ : Choice) = _
    rw [hchosen]
    rfl
  | false =>
    have hchosen := mainClock_regular.chosen_reported mainClock_apart ha
    change (⟨rateOf _ (mainClock.chosen (mainClock.reported a)),
      codeOf (mainClock.chosen (mainClock.reported a))⟩ : Choice) = _
    rw [hchosen]
    rfl

/-- **On a later chip the rates that are reported are a monotone projection.** Every rate has a
setting, on any channel. A higher rate is never reported lower, and the rate that is reported has
the very setting that it is reported with: the same words of the request and the same rate. -/
theorem monotone_projection (hchip : chip ≠ .am) (channel : UInt16) (ha : 0 < a) (hab : a ≤ b) :
    ∃ low high, Setting.ofRate? chip channel a = some low ∧
      Setting.ofRate? chip channel b = some high ∧ low.actual ≤ high.actual ∧
      Setting.ofRate? chip channel low.actual = some low := by
  have hpos : 0 < (search chip a).actual := (search_code chip ha).2.2.2.2
  refine ⟨_, _, ofRate?_eq chip channel ha, ofRate?_eq chip channel (by omega),
    actual_mono hchip ha hab, ?_⟩
  change Setting.ofRate? chip channel (search chip a).actual = _
  rw [ofRate?_eq chip channel hpos, search_actual hchip ha]

/-- At the change of the clock, and at the lowest rate. -/
theorem monotone_projection_732 : Chip.ft232h ≠ .am ∧
    (∃ low high, Setting.ofRate? .ft232h 1 732 = some low ∧
      Setting.ofRate? .ft232h 1 733 = some high ∧ low.actual ≤ high.actual ∧
      Setting.ofRate? .ft232h 1 low.actual = some low) ∧
    ∃ low high, Setting.ofRate? .ft232r 1 1 = some low ∧
      Setting.ofRate? .ft232r 1 183 = some high ∧ low.actual ≤ high.actual ∧
      Setting.ofRate? .ft232r 1 low.actual = some low :=
  ⟨by decide, monotone_projection (by decide) 1 (by decide) (by decide),
    monotone_projection (by decide) 1 (by decide) (by decide)⟩

end PinBridge.Baud
