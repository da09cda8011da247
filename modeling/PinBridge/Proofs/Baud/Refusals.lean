import PinBridge.Proofs.Baud.Near

/-!
# Which rates are refused

`refusals` lists, for each chip, the spans of rates that are refused, each with the one rate that is
reported for the whole span; `refused_iff` says that these are all of them.
-/

namespace PinBridge.Baud

/-- The largest rate that can be wanted: four times the largest one that can be asked for. -/
def maxWanted : Nat := 4 * 0xFFFFFFFF

/-- A span of rates that are refused, with the rate that is reported. -/
structure Refusal where
  first : Nat
  last : Nat
  reported : Nat
  deriving DecidableEq

/-- The rates that a later chip is refused: those below the lowest one, those between the three
fastest ones that lie more than a twentieth above one of them, and those above all. -/
def laterRefusals (u : Nat) : List Refusal :=
  [⟨1, 174, 183⟩, ⟨63 * u / 20 + 1, 4 * u - 1, 3 * u⟩, ⟨84 * u / 20 + 1, 6 * u - 1, 4 * u⟩,
    ⟨126 * u / 20 + 1, maxWanted, 6 * u⟩]

/-- The rates that an early chip is refused. -/
def slowRefusals : List Refusal :=
  [⟨1, 174, 183⟩, ⟨631579, 634920, 666667⟩, ⟨800001, 816326, 857143⟩,
    ⟨1090910, 1142857, 1200000⟩, ⟨1260001, 1266666, 1200000⟩, ⟨1266667, 1269840, 1333333⟩,
    ⟨1575001, 2666666, 1500000⟩, ⟨2666667, 2857142, 3000000⟩, ⟨3150001, maxWanted, 3000000⟩]

/-- **The rates that a chip is refused.** -/
def refusals (chip : Chip) : List Refusal :=
  if chip = .am then slowRefusals else laterRefusals (unit chip)

/-- A rate is in a span of the list for which another one is reported. -/
def RefusedAs (spans : List Refusal) (e a : Nat) : Prop :=
  ∃ refusal ∈ spans, refusal.first ≤ e ∧ e ≤ refusal.last ∧ refusal.reported = a

variable {chip : Chip} {e a r u : Nat}

theorem RefusedAs.of_mem {spans : List Refusal} (first last : Nat) (hmem : ⟨first, last, a⟩ ∈ spans)
    (hfirst : first ≤ e) (hlast : e ≤ last) : RefusedAs spans e a := ⟨_, hmem, hfirst, hlast, rfl⟩

theorem refusedAs_later : RefusedAs (laterRefusals u) e a ↔
    (1 ≤ e ∧ e ≤ 174 ∧ 183 = a) ∨
      (63 * u / 20 + 1 ≤ e ∧ e ≤ 4 * u - 1 ∧ 3 * u = a) ∨
      (84 * u / 20 + 1 ≤ e ∧ e ≤ 6 * u - 1 ∧ 4 * u = a) ∨
      (126 * u / 20 + 1 ≤ e ∧ e ≤ maxWanted ∧ 6 * u = a) := by
  unfold RefusedAs laterRefusals
  simp only [List.mem_cons, List.not_mem_nil, or_false, exists_eq_or_imp, exists_eq_left]

theorem refusedAs_slow : RefusedAs slowRefusals e a ↔
    (1 ≤ e ∧ e ≤ 174 ∧ 183 = a) ∨ (631579 ≤ e ∧ e ≤ 634920 ∧ 666667 = a) ∨
      (800001 ≤ e ∧ e ≤ 816326 ∧ 857143 = a) ∨ (1090910 ≤ e ∧ e ≤ 1142857 ∧ 1200000 = a) ∨
      (1260001 ≤ e ∧ e ≤ 1266666 ∧ 1200000 = a) ∨ (1266667 ≤ e ∧ e ≤ 1269840 ∧ 1333333 = a) ∨
      (1575001 ≤ e ∧ e ≤ 2666666 ∧ 1500000 = a) ∨ (2666667 ≤ e ∧ e ≤ 2857142 ∧ 3000000 = a) ∨
      (3150001 ≤ e ∧ e ≤ maxWanted ∧ 3000000 = a) := by
  unfold RefusedAs slowRefusals
  simp only [List.mem_cons, List.not_mem_nil, or_false, exists_eq_or_imp, exists_eq_left]

theorem LaterRate.refusedAs (h : LaterRate u e r) (he : 0 < e) (hmax : e ≤ maxWanted)
    (hrefused : ¬ withinTolerance e r) : RefusedAs (laterRefusals u) e r := by
  rw [withinTolerance_iff] at hrefused
  unfold laterRefusals
  cases h with
  | fastest low => exact .of_mem (126 * u / 20 + 1) maxWanted (by simp) (by omega) hmax
  | second low high =>
    exact .of_mem (84 * u / 20 + 1) (6 * u - 1) (by simp) (by omega) (by omega)
  | third low high =>
    exact .of_mem (63 * u / 20 + 1) (4 * u - 1) (by simp) (by omega) (by omega)
  | near low high near => exact absurd (withinTolerance_iff.mp (within_of_near near)) hrefused
  | lowest high => exact .of_mem 1 174 (by simp) he (by omega)

theorem SlowRate.refusedAs (h : SlowRate e r) (he : 0 < e) (hmax : e ≤ maxWanted)
    (hrefused : ¬ withinTolerance e r) : RefusedAs slowRefusals e r := by
  rw [withinTolerance_iff] at hrefused
  cases h with
  | over8 low =>
    rcases Nat.lt_or_ge 3000000 e with hhigh | hhigh
    · exact .of_mem 3150001 maxWanted (by decide) (by omega) hmax
    · exact .of_mem 2666667 2857142 (by decide) (by omega) (by omega)
  | over16 low high => exact .of_mem 1575001 2666666 (by decide) (by omega) (by omega)
  | over18 low high => exact .of_mem 1266667 1269840 (by decide) (by omega) (by omega)
  | over20 low high apart =>
    rcases Nat.lt_or_ge 1200000 e with hhigh | hhigh
    · exact .of_mem 1260001 1266666 (by decide) (by omega) (by omega)
    · exact .of_mem 1090910 1142857 (by decide) (by omega) (by omega)
  | over28 low high => exact .of_mem 800001 816326 (by decide) (by omega) (by omega)
  | over36 low high => exact .of_mem 631579 634920 (by decide) (by omega) (by omega)
  | near low high apart near => exact absurd near hrefused
  | lowest high => exact .of_mem 1 174 (by decide) he (by omega)

theorem LaterRate.of_refusedAs (h : LaterRate u e r) (hu : 1000 ≤ u)
    (hspan : RefusedAs (laterRefusals u) e a) : r = a ∧ ¬ withinTolerance e r := by
  rw [withinTolerance_iff]
  rcases refusedAs_later.mp hspan with
    ⟨hfirst, hlast, rfl⟩ | ⟨hfirst, hlast, rfl⟩ | ⟨hfirst, hlast, rfl⟩ | ⟨hfirst, hlast, rfl⟩
  all_goals
    cases h with
    | _ => omega

theorem SlowRate.of_refusedAs (h : SlowRate e r) (hspan : RefusedAs slowRefusals e a) :
    r = a ∧ ¬ withinTolerance e r := by
  rw [withinTolerance_iff]
  rw [refusedAs_slow] at hspan
  cases h with
  | _ => omega

theorem search_am (e : Nat) : search .am e = slowSearch e := rfl

/-- **Which rates are refused**, and what is reported then. -/
theorem refused_iff (he : 0 < e) (hmax : e ≤ maxWanted) :
    (¬ withinTolerance e (search chip e).actual ∧ (search chip e).actual = a) ↔
      RefusedAs (refusals chip) e a := by
  unfold refusals
  by_cases hchip : chip = .am
  · subst hchip
    rw [if_pos rfl, search_am]
    have hrate := slow_rate he
    constructor
    · rintro ⟨hrefused, rfl⟩
      exact hrate.refusedAs he hmax hrefused
    · exact fun h => (hrate.of_refusedAs h).symm
  · rw [if_neg hchip]
    have hrate := later_rate hchip he
    have hunit : 1000 ≤ unit chip := by
      rcases unit_eq chip with h | h
      · omega
      · omega
    constructor
    · rintro ⟨hrefused, rfl⟩
      exact hrate.refusedAs he hmax hrefused
    · exact fun h => (hrate.of_refusedAs hunit h).symm

/-! ### The rates that are reported -/

/-- **A rate that is reported is one that the chip takes**, and four times of it just where it is
the lowest one. -/
theorem RefusedAs.reported (h : RefusedAs (refusals chip) e a) :
    0 < a ∧ a ≤ 12000000 ∧ withinTolerance a (search chip a).actual ∧
      (withinTolerance (4 * a) (search chip (4 * a)).actual ↔ e < 175) := by
  have htable : ∀ refusal ∈ refusals chip,
      (0 < refusal.reported ∧ refusal.reported ≤ 12000000 ∧
        withinTolerance refusal.reported (search chip refusal.reported).actual) ∧
      (refusal.last < 175 ∧
        withinTolerance (4 * refusal.reported) (search chip (4 * refusal.reported)).actual ∨
      175 ≤ refusal.first ∧
        ¬ withinTolerance (4 * refusal.reported) (search chip (4 * refusal.reported)).actual) := by
    cases chip <;> decide
  obtain ⟨refusal, hmem, hfirst, hlast, rfl⟩ := h
  obtain ⟨⟨hpos, hle, htaken⟩, ⟨hlow, hfour⟩ | ⟨hhigh, hfour⟩⟩ := htable refusal hmem
  · exact ⟨hpos, hle, htaken, iff_of_true hfour (by omega)⟩
  · exact ⟨hpos, hle, htaken, iff_of_false hfour (by omega)⟩

/-- All rates beyond what a request can be for are refused alike. -/
theorem RefusedAs.of_min {wanted : Nat} (h : RefusedAs (refusals chip) (min wanted 0xFFFFFFFF) a)
    (hmax : wanted ≤ maxWanted) : RefusedAs (refusals chip) wanted a := by
  have htable : ∀ refusal ∈ refusals chip,
      refusal.last < 0xFFFFFFFF ∨ refusal.last = maxWanted := by
    cases chip <;> decide
  obtain ⟨refusal, hmem, hfirst, hlast, rfl⟩ := h
  have hlast' := htable refusal hmem
  exact ⟨refusal, hmem, by omega, by omega, rfl⟩

end PinBridge.Baud
