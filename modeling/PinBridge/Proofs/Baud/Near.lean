import PinBridge.Proofs.Baud.Search

/-!
# How near a divisor comes

A divisor `c` comes near to a rate `e` if `c * e` is near to the reference clock: where the two are
no more than a small multiple of `e / 2` apart, the rate of `c` is within a twenty-first of `e`
(`near_of_multiple`), which the tolerance allows. Below 175 no chip comes near enough, and there all
of them report their lowest rate, 183.

* `later_rate` : the rate of a later chip, by the span of rates asked for.
* `slow_rate` : the rate of an early chip, which comes near but for a few quotients of the clock by
  the rate asked for; `SlowRate.of_quotient` settles one of these.
-/

namespace PinBridge.Baud

/-! ### Rounding -/

theorem rateOf_bounds (ref : Nat) {c : Nat} (hc : 0 < c) :
    2 * (c * rateOf ref c) ≤ 2 * ref + c ∧ 2 * ref < 2 * (c * rateOf ref c) + c := by
  have hle : 2 * c * rateOf ref c ≤ 2 * ref + c := Nat.mul_div_le _ _
  have hlt : 2 * ref + c < 2 * c * (rateOf ref c + 1) := Nat.lt_mul_div_succ _ (by omega)
  rw [Nat.mul_add, Nat.mul_assoc] at hlt
  rw [Nat.mul_assoc] at hle
  omega

/-- The larger the divisor, the lower the rate. -/
theorem rateOf_anti {ref c d : Nat} (hc : 0 < c) (hcd : c ≤ d) : rateOf ref d ≤ rateOf ref c := by
  have hle := (rateOf_bounds ref (Nat.lt_of_lt_of_le hc hcd)).1
  have hlt := (rateOf_bounds ref hc).2
  refine Nat.le_of_not_lt fun habove => ?_
  have hmul : d * (rateOf ref c + 1) ≤ d * rateOf ref d := Nat.mul_le_mul_left d habove
  have hscale : c * rateOf ref c ≤ d * rateOf ref c := Nat.mul_le_mul_right _ hcd
  rw [Nat.mul_add] at hmul
  omega

theorem within_of_near {e r : Nat} (h : 21 * distance r e ≤ e) : withinTolerance e r := by
  rw [withinTolerance_iff]
  unfold distance at h
  omega

/-- **A near multiple gives a near rate.** -/
theorem near_of_multiple {ref e c k : Nat} (he : 175 ≤ e) (hc : 0 < c)
    (hk : 3700 * k ≤ 331 * c) (hlow : 2 * (c * e) ≤ 2 * ref + k * e)
    (hhigh : 2 * ref ≤ 2 * (c * e) + k * e) : 21 * distance (rateOf ref c) e ≤ e := by
  -- Rounding costs `c / 2`, which from 175 on is a small part of `c * e`; the bound on `k` leaves
  -- `k * e / 2` the rest.
  obtain ⟨hrate_le, hrate_lt⟩ := rateOf_bounds ref hc
  generalize rateOf ref c = r at hrate_le hrate_lt ⊢
  have hslack : 3700 * (k * e) ≤ 331 * (c * e) := by
    have hmul := Nat.mul_le_mul_right e hk
    rwa [Nat.mul_assoc, Nat.mul_assoc] at hmul
  have hlarge : c * 175 ≤ c * e := Nat.mul_le_mul_left c he
  have hnot_above : ¬ 22 * e + 1 ≤ 21 * r := by
    intro habove
    have hmul := Nat.mul_le_mul_left c habove
    rw [Nat.mul_add, Nat.mul_left_comm, Nat.mul_left_comm c 21] at hmul
    omega
  have hnot_below : ¬ 21 * r + 1 ≤ 20 * e := by
    intro hbelow
    have hmul := Nat.mul_le_mul_left c hbelow
    rw [Nat.mul_add, Nat.mul_left_comm, Nat.mul_left_comm c 20] at hmul
    omega
  unfold distance
  omega

/-! ### Later chips -/

/-- The divisor that is searched for comes near, unless it is cut down to what there is room for. -/
theorem divisor_near {c : Clock} (hc : c.Regular) {e : Nat} (he : 175 ≤ e)
    (hslow : e < rateOf c.reference 16) (hfit : halve (c.doubled / e) ≤ 0x20000) :
    21 * distance (rateOf c.reference (c.divisor e)) e ≤ e := by
  obtain ⟨hlow, -⟩ := hc.divisor_usable (by omega) hslow
  have hdivisor : c.divisor e = rateOf c.reference e := by
    unfold Clock.divisor
    simp only
    rw [if_neg (by omega), hc.doubled, halve_div _ (by omega)]
  obtain ⟨hle, hlt⟩ := rateOf_bounds c.reference (c := e) (by omega)
  rw [← hdivisor, Nat.mul_comm e] at hle hlt
  exact near_of_multiple (k := 1) he (by omega) (by omega) (by omega) (by omega)

/-- Below 183 the divisor is cut down, and so is that of 183 itself. -/
theorem mainClock_divisor_cut {e : Nat} (he : 0 < e)
    (hcut : 0x20000 < halve (mainClock.doubled / e)) :
    rateOf mainClock.reference (mainClock.divisor e) = 183 ∧ e ≤ 183 := by
  have hdivisor : mainClock.divisor e = 0x1FFFF := by
    unfold Clock.divisor
    exact if_pos hcut
  have hdoubled : mainClock.doubled = 48000000 := rfl
  have hquotient : 0x40001 ≤ 48000000 / e := by
    rw [halve_eq, hdoubled] at hcut
    omega
  have hmul : 0x40001 * e ≤ 48000000 := (Nat.le_div_iff_mul_le he).mp hquotient
  refine ⟨?_, by omega⟩
  rw [hdivisor]
  rfl

/-- The main clock comes near from 175 on, and has nothing lower than 183. -/
theorem mainClock_divisor_rate {e : Nat} (he : 0 < e) (hslow : e < 1500000) :
    (175 ≤ e ∧ 21 * distance (rateOf mainClock.reference (mainClock.divisor e)) e ≤ e) ∨
      (e < 175 ∧ rateOf mainClock.reference (mainClock.divisor e) = 183) := by
  have hdoubled : mainClock.doubled = 48000000 := rfl
  rcases Nat.lt_or_ge 0x20000 (halve (mainClock.doubled / e)) with hcut | hfit
  · obtain ⟨hrate, hle⟩ := mainClock_divisor_cut he hcut
    rw [hrate]
    unfold distance
    omega
  · have hquotient : mainClock.doubled / e < 0x40001 := by
      rw [halve_eq] at hfit
      omega
    rw [hdoubled, Nat.div_lt_iff_lt_mul he] at hquotient
    exact .inl ⟨by omega, divisor_near mainClock_regular (by omega) hslow hfit⟩

/-- From 733 on, the divisor of the second clock is not cut down. -/
theorem fastClock_divisor_fits {e : Nat} (he : 733 ≤ e) :
    halve (fastClock.doubled / e) ≤ 0x20000 := by
  have hdoubled : fastClock.doubled = 192000000 := rfl
  have hquotient : 192000000 / e < 0x40001 := (Nat.div_lt_iff_lt_mul (by omega)).mpr (by omega)
  rw [halve_eq, hdoubled]
  omega

/-- A sixth of the fastest rate of a later chip. -/
def unit (chip : Chip) : Nat := if chip.isHighSpeed then 2000000 else 500000

theorem unit_eq (chip : Chip) : unit chip = 2000000 ∨ unit chip = 500000 := by
  unfold unit
  split
  · exact .inl rfl
  · exact .inr rfl

/-- The rates of a later chip by what is asked for, in sixths of the fastest one: each of the three
fastest is taken for all that is asked for up to the next, and below them the chip comes near, down
to the lowest one. -/
inductive LaterRate (u e : Nat) : Nat → Prop
  | fastest (low : 6 * u ≤ e) : LaterRate u e (6 * u)
  | second (low : 4 * u ≤ e) (high : e < 6 * u) : LaterRate u e (4 * u)
  | third (low : 3 * u ≤ e) (high : e < 4 * u) : LaterRate u e (3 * u)
  | near {r : Nat} (low : 175 ≤ e) (high : e < 3 * u) (near : 21 * distance r e ≤ e) :
      LaterRate u e r
  | lowest (high : e < 175) : LaterRate u e 183

theorem LaterRate.of_low {u u' e r : Nat} (h : LaterRate u e r) (hu : e < 3 * u)
    (hu' : e < 3 * u') : LaterRate u' e r := by
  cases h with
  | fastest | second | third => omega
  | near low _ near => exact .near low hu' near
  | lowest high => exact .lowest high

/-- A clock has these rates if it has them below the three fastest. -/
theorem laterRate_of_chosen {c : Clock} {u e : Nat} (h8 : rateOf c.reference 8 = 6 * u)
    (h12 : rateOf c.reference 12 = 4 * u) (h16 : rateOf c.reference 16 = 3 * u)
    (hbelow : e < 3 * u → LaterRate u e (rateOf c.reference (c.divisor e))) :
    LaterRate u e (rateOf c.reference (c.chosen e)) := by
  unfold Clock.chosen
  rw [h8, h12, h16]
  split
  · next h =>
    rw [h8]
    exact .fastest h
  · split
    · next h h' =>
      rw [h12]
      exact .second h' (by omega)
    · split
      · next h h' =>
        rw [h16]
        exact .third h' (by omega)
      · next h => exact hbelow (by omega)

/-- **The rate of a later chip.** -/
theorem later_rate {chip : Chip} {e : Nat} (hchip : chip ≠ .am) (he : 0 < e) :
    LaterRate (unit chip) e (search chip e).actual := by
  rw [search_eq chip he]
  unfold divisorFor unit
  rw [if_neg hchip]
  cases hfast : takesFastClock chip e with
  | true =>
    obtain ⟨hhigh, h733⟩ := takesFastClock_iff.mp hfast
    rw [hhigh]
    refine laterRate_of_chosen (c := fastClock) rfl rfl rfl fun h => ?_
    exact .near (by omega) h
      (divisor_near fastClock_regular (by omega) h (fastClock_divisor_fits h733))
  | false =>
    have hmain : LaterRate 500000 e (rateOf mainClock.reference (mainClock.chosen e)) := by
      refine laterRate_of_chosen rfl rfl rfl fun h => ?_
      rcases mainClock_divisor_rate he h with ⟨hlow, hnear⟩ | ⟨hlow, hrate⟩
      · exact .near hlow h hnear
      · rw [hrate]
        exact .lowest hlow
    cases hhigh : chip.isHighSpeed with
    | false => exact hmain
    | true =>
      -- A high-speed chip uses the main clock for low rates only.
      have hlow : e < 733 := by
        refine Nat.lt_of_not_le fun h733 => ?_
        rw [takesFastClock_iff.mpr ⟨hhigh, h733⟩] at hfast
        cases hfast
      change LaterRate 2000000 e _
      exact hmain.of_low (by omega) (by omega)

/-! ### Early chips -/

theorem slowClock_quotient_bounds {e : Nat} (he : 0 < e) :
    slowClock / e * e ≤ 24000000 ∧ 24000000 < (slowClock / e + 1) * e :=
  ⟨Nat.div_mul_le_self _ _, Nat.lt_mul_of_div_lt (Nat.lt_succ_self _) he⟩

/-- Of two rates the one nearer to a third, and of two as near the first. -/
def nearer (e a b : Nat) : Nat := if distance b e < distance a e then b else a

theorem distance_nearer (e a b : Nat) :
    distance (nearer e a b) e ≤ distance a e ∧ distance (nearer e a b) e ≤ distance b e := by
  unfold nearer
  split
  · omega
  · omega

/-- The rate of an early chip is that of one of two candidates. -/
theorem slowSearch_actual (e : Nat) :
    (slowSearch e).actual =
      nearer e (slowRate (slowCandidate (slowClock / e - excess (slowClock / e)) 0))
        (slowRate (slowCandidate (slowClock / e - excess (slowClock / e)) 1)) := by
  unfold slowSearch slowDivisor nearer
  simp only
  exact apply_ite slowRate _ _ _

theorem excess_mod (q : Nat) : excess (q % 8) = excess q := by
  unfold excess
  rw [Nat.mod_mod]

theorem excess_le (q : Nat) : excess q ≤ 3 ∧ excess q ≤ q % 8 := by
  have htable : ∀ r < 8, excess r ≤ 3 ∧ excess r ≤ r := by decide
  rw [← excess_mod]
  exact htable _ (Nat.mod_lt _ (by decide))

theorem shortfall_mod (q : Nat) : shortfall (q % 8) = shortfall q := by
  unfold shortfall
  rw [Nat.mod_mod]

/-- A candidate by the eighths of the quotient. -/
theorem slowCandidate_eq {q step r c : Nat} (hq : 20 ≤ q) (hmod : q % 8 = r)
    (hc : c + excess r = q + step + shortfall ((r - excess r + step) % 8)) :
    slowCandidate (q - excess q) step = min c slowLimit := by
  have hexcess : excess q = excess r := by rw [← hmod, excess_mod]
  obtain ⟨hthree, hself⟩ := excess_le q
  rw [hexcess] at hthree hself
  have hshort : shortfall (q - excess r + step) = shortfall ((r - excess r + step) % 8) := by
    rw [← shortfall_mod]
    congr 1
    omega
  unfold slowCandidate
  rw [hexcess, if_neg (by omega), if_neg (by omega), hshort]
  congr 1
  omega

/-- **One of the candidates is near the quotient**: it is the quotient or the next divisor, or the
one before where the quotient has five eighths. -/
theorem exists_slowCandidate_near {q : Nat} (hq : 20 ≤ q) :
    ∃ step < 2, ∃ c, slowCandidate (q - excess q) step = min c slowLimit ∧
      (c = q ∨ c = q + 1 ∨ q % 8 = 5 ∧ c = q - 1) := by
  have heighths : q % 8 < 8 := Nat.mod_lt _ (by decide)
  generalize hr : q % 8 = r at heighths
  match r with
  | 0 | 1 | 2 | 4 => exact ⟨0, by decide, q, slowCandidate_eq hq hr rfl, .inl rfl⟩
  | 3 => exact ⟨1, by decide, q + 1, slowCandidate_eq hq hr rfl, .inr (.inl rfl)⟩
  | 5 =>
    have hc : q - 1 + 3 = q + 1 + 1 := by omega
    exact ⟨1, by decide, q - 1, slowCandidate_eq hq hr hc, .inr (.inr ⟨rfl, rfl⟩)⟩
  | 6 => exact ⟨1, by decide, q, slowCandidate_eq hq hr rfl, .inl rfl⟩
  | 7 => exact ⟨0, by decide, q + 1, slowCandidate_eq hq hr rfl, .inr (.inl rfl)⟩

/-- A divisor near the quotient of a rate comes near to the rate; of those that are too large the
largest one does. -/
theorem slowRate_near {e c : Nat} (he : 175 ≤ e)
    (hc : (c = slowClock / e ∨ c = slowClock / e + 1) ∧ 23 ≤ c ∨ c + 1 = slowClock / e ∧ 45 ≤ c) :
    21 * distance (slowRate (min c slowLimit)) e ≤ e := by
  have hclock : slowClock = 24000000 := rfl
  obtain ⟨hle, hlt⟩ := slowClock_quotient_bounds (e := e) (by omega)
  generalize slowClock / e = q at hc hle hlt
  rcases Nat.le_total c slowLimit with hfit | hcut
  · rw [Nat.min_eq_left hfit, slowRate_eq, hclock]
    rcases hc with ⟨rfl | rfl, hlarge⟩ | ⟨rfl, hlarge⟩
    · rw [Nat.add_mul] at hlt
      exact near_of_multiple (k := 2) he (by omega) (by omega) (by omega) (by omega)
    · rw [Nat.add_mul] at hlt
      exact near_of_multiple (k := 2) he (by omega) (by omega) (by rw [Nat.add_mul]; omega)
        (by rw [Nat.add_mul]; omega)
    · rw [Nat.add_mul, Nat.add_mul] at hlt
      rw [Nat.add_mul] at hle
      exact near_of_multiple (k := 4) he (by omega) (by omega) (by omega) (by omega)
  · -- What is too large by a little only is the divisor of a rate up to 183.
    have hlimit : slowLimit = 0x1FFF8 := rfl
    have hscale : 0x1FFF7 * e ≤ q * e := Nat.mul_le_mul_right e (by omega)
    rw [Nat.min_eq_right hcut, show slowRate slowLimit = 183 from rfl]
    unfold distance
    omega

/-- An early chip comes near from 175 on, but for the quotients below 23 and three others. -/
theorem slow_near {e : Nat} (he : 175 ≤ e) (hq : 23 ≤ slowClock / e)
    (hfive : slowClock / e ∉ [29, 37, 45]) : 21 * distance (slowSearch e).actual e ≤ e := by
  obtain ⟨step, hstep, c, hcandidate, hc⟩ :=
    exists_slowCandidate_near (q := slowClock / e) (by omega)
  have hnear : 21 * distance (slowRate (min c slowLimit)) e ≤ e := by
    refine slowRate_near he ?_
    simp only [List.mem_cons, List.not_mem_nil, or_false] at hfive
    omega
  obtain ⟨hfirst, hsecond⟩ := distance_nearer e
    (slowRate (slowCandidate (slowClock / e - excess (slowClock / e)) 0))
    (slowRate (slowCandidate (slowClock / e - excess (slowClock / e)) 1))
  rw [slowSearch_actual]
  rw [← hcandidate] at hnear
  match step with
  | 0 => omega
  | 1 => omega

/-- Below 175 both candidates are cut down. -/
theorem slow_cut {e : Nat} (he : 0 < e) (hlow : e < 175) : (slowSearch e).actual = 183 := by
  have hclock : slowClock = 24000000 := rfl
  have hquotient : 137931 ≤ slowClock / e := by
    rw [Nat.le_div_iff_mul_le he]
    omega
  have hcut : ∀ q step, 137931 ≤ q → slowCandidate (q - excess q) step = slowLimit := by
    intro q step hq
    have hexcess := (excess_le q).1
    have hlimit : slowLimit = 0x1FFF8 := rfl
    unfold slowCandidate
    rw [if_neg (by omega), if_neg (by omega), Nat.min_eq_right (by omega)]
  rw [slowSearch_actual, hcut _ _ hquotient, hcut _ _ hquotient]
  unfold nearer
  rw [if_neg (Nat.lt_irrefl _)]
  rfl

/-- The rates of an early chip by what is asked for. Six divisors are taken for more than they come
near to; for all else the chip comes near, down to the lowest rate. -/
inductive SlowRate (e : Nat) : Nat → Prop
  | over8 (low : 2666667 ≤ e) : SlowRate e 3000000
  | over16 (low : 1500000 < e) (high : e ≤ 2666666) : SlowRate e 1500000
  | over18 (low : 1266667 ≤ e) (high : e ≤ 1333333) : SlowRate e 1333333
  | over20 (low : 1090910 ≤ e) (high : e ≤ 1266666) (apart : e ≤ 1142857 ∨ 1200000 < e) :
      SlowRate e 1200000
  | over28 (low : 800001 ≤ e) (high : e ≤ 827586) : SlowRate e 857143
  | over36 (low : 631579 ≤ e) (high : e ≤ 648648) : SlowRate e 666667
  | near {r : Nat} (low : 175 ≤ e) (high : e ≤ 1500000)
      (apart : (e < 631579 ∨ 648648 < e) ∧ (e < 800001 ∨ 827586 < e) ∧
        (e < 1090910 ∨ 1142857 < e) ∧ (e ≤ 1200000 ∨ 1333333 < e))
      (near : 20 * e ≤ 21 * r ∧ 20 * r ≤ 21 * e) : SlowRate e r
  | lowest (high : e < 175) : SlowRate e 183

theorem SlowRate.of_nearer {e x y : Nat} (hxy : y ≤ x) (hx : x + y ≤ 2 * e → SlowRate e x)
    (hy : 2 * e < x + y → SlowRate e y) : SlowRate e (nearer e x y) := by
  unfold nearer distance
  split
  · exact hy (by omega)
  · rcases Nat.eq_or_lt_of_le hxy with rfl | hlt
    · exact (Nat.lt_or_ge (2 * e) (y + y)).elim hy hx
    · exact hx (by omega)

/-- The quotient alone says which two rates there are to choose from. -/
theorem SlowRate.of_quotient {e : Nat} (q x y : Nat) (hq : slowClock / e = q) (he : 0 < e)
    (hx : slowRate (slowCandidate (q - excess q) 0) = x)
    (hy : slowRate (slowCandidate (q - excess q) 1) = y)
    (h : q * e ≤ 24000000 → 24000000 < (q + 1) * e → SlowRate e (nearer e x y)) :
    SlowRate e (slowSearch e).actual := by
  obtain ⟨hle, hlt⟩ := slowClock_quotient_bounds he
  rw [hq] at hle hlt
  rw [slowSearch_actual, hq, hx, hy]
  exact h hle hlt

/-- Where the quotient is below 16, the fractions that an early chip has are far apart. -/
theorem slowRate_of_lt_sixteen : ∀ q < 16, ∀ step < 2,
    slowRate (slowCandidate (q - excess q) step) =
      if q < 8 ∨ q = 8 ∧ step = 0 then 3000000 else 1500000 := by
  decide

/-- **The rate of an early chip.** -/
theorem slow_rate {e : Nat} (he : 0 < e) : SlowRate e (slowSearch e).actual := by
  -- One case for each quotient whose two candidates are far apart; the last one has all the others.
  have hquotients : slowClock / e < 8 ∨ slowClock / e = 8 ∨
      (8 < slowClock / e ∧ slowClock / e < 16) ∨ slowClock / e = 16 ∨ slowClock / e = 17 ∨
      slowClock / e = 18 ∨ slowClock / e = 19 ∨ slowClock / e = 20 ∨ slowClock / e = 21 ∨
      slowClock / e = 22 ∨ slowClock / e = 29 ∨ slowClock / e = 37 ∨ slowClock / e = 45 ∨
      (23 ≤ slowClock / e ∧ slowClock / e ≠ 29 ∧ slowClock / e ≠ 37 ∧ slowClock / e ≠ 45) := by
    omega
  rcases hquotients with h | h | ⟨h, h'⟩ | h | h | h | h | h | h | h | h | h | h | ⟨h, hfive⟩
  · have hboth := slowRate_of_lt_sixteen _ (by omega : slowClock / e < 16)
    refine .of_quotient _ 3000000 3000000 rfl he ?_ ?_ fun hle hlt => ?_
    · rw [hboth 0 (by decide), if_pos (.inl h)]
    · rw [hboth 1 (by decide), if_pos (.inl h)]
    · have hscale : (slowClock / e + 1) * e ≤ 8 * e := Nat.mul_le_mul_right e (by omega)
      exact .of_nearer (by decide) (fun _ => .over8 (by omega)) (by omega)
  · refine .of_quotient 8 3000000 1500000 h he rfl rfl fun hle hlt => ?_
    exact .of_nearer (by decide) (fun _ => .over8 (by omega)) (by omega)
  · have hboth := slowRate_of_lt_sixteen _ h'
    refine .of_quotient _ 1500000 1500000 rfl he ?_ ?_ fun hle hlt => ?_
    · rw [hboth 0 (by decide), if_neg (by omega)]
    · rw [hboth 1 (by decide), if_neg (by omega)]
    · have hscale : (slowClock / e + 1) * e ≤ 16 * e := Nat.mul_le_mul_right e (by omega)
      have hscale' : 9 * e ≤ slowClock / e * e := Nat.mul_le_mul_right e h
      exact .of_nearer (by decide) (fun _ => .over16 (by omega) (by omega))
        fun _ => .over16 (by omega) (by omega)
  · refine .of_quotient 16 1500000 1411765 h he rfl rfl fun hle hlt => ?_
    exact .of_nearer (by decide) (fun _ => .near (by omega) (by omega) (by omega) (by omega))
      fun _ => .near (by omega) (by omega) (by omega) (by omega)
  · refine .of_quotient 17 1411765 1333333 h he rfl rfl fun hle hlt => ?_
    exact .of_nearer (by decide) (fun _ => .near (by omega) (by omega) (by omega) (by omega))
      fun _ => .near (by omega) (by omega) (by omega) (by omega)
  · refine .of_quotient 18 1333333 1200000 h he rfl rfl fun hle hlt => ?_
    exact .of_nearer (by decide) (fun _ => .over18 (by omega) (by omega)) fun _ =>
      .over20 (by omega) (by omega) (by omega)
  · refine .of_quotient 19 1333333 1200000 h he rfl rfl fun hle hlt => ?_
    exact .of_nearer (by decide) (by omega) fun _ => .over20 (by omega) (by omega) (by omega)
  · refine .of_quotient 20 1200000 1090909 h he rfl rfl fun hle hlt => ?_
    exact .of_nearer (by decide) (fun _ => .near (by omega) (by omega) (by omega) (by omega))
      fun _ => .near (by omega) (by omega) (by omega) (by omega)
  · refine .of_quotient 21 1333333 1200000 h he rfl rfl fun hle hlt => ?_
    exact .of_nearer (by decide) (by omega) fun _ => .over20 (by omega) (by omega) (by omega)
  · refine .of_quotient 22 1200000 1090909 h he rfl rfl fun hle hlt => ?_
    exact .of_nearer (by decide) (by omega) fun _ =>
      .near (by omega) (by omega) (by omega) (by omega)
  · refine .of_quotient 29 923077 857143 h he rfl rfl fun hle hlt => ?_
    exact .of_nearer (by decide) (by omega) fun _ => .over28 (by omega) (by omega)
  · refine .of_quotient 37 705882 666667 h he rfl rfl fun hle hlt => ?_
    exact .of_nearer (by decide) (by omega) fun _ => .over36 (by omega) (by omega)
  · refine .of_quotient 45 571429 545455 h he rfl rfl fun hle hlt => ?_
    exact .of_nearer (by decide) (by omega) fun _ =>
      .near (by omega) (by omega) (by omega) (by omega)
  · rcases Nat.lt_or_ge e 175 with hlow | hlow
    · rw [slow_cut he hlow]
      exact .lowest hlow
    · have hclock : slowClock = 24000000 := rfl
      have hquotient : ∀ q, slowClock / e = q ↔ q * e ≤ 24000000 ∧ 24000000 < (q + 1) * e := by
        intro q
        rw [Nat.div_eq_iff he, hclock, Nat.add_mul]
        omega
      have hle : 23 * e ≤ 24000000 := (Nat.le_div_iff_mul_le he).mp h
      have hnear : withinTolerance e (slowSearch e).actual :=
        within_of_near (slow_near hlow h (by simpa using hfive))
      rw [withinTolerance_iff] at hnear
      simp only [ne_eq, hquotient] at hfive
      exact .near hlow (by omega) (by omega) hnear

end PinBridge.Baud
