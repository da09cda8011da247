import PinBridge.Proofs.Baud.Near

/-!
# Which rates are accepted

A later chip accepts three spans of rates (`acceptedSpans`): all from the lowest one up to a
twentieth above the third fastest, and as much above each of the two fastest as the tolerance
allows, but nothing below these. The divisor comes near enough everywhere else, so the spans have no
gaps (`accepts_iff`). Far above its fastest rate no chip accepts anything (`not_within_of_large`).
-/

namespace PinBridge.Baud

/-- **The rates that a later chip accepts**, as spans from the first to the last. -/
def acceptedSpans (chip : Chip) : List (Nat × Nat) :=
  if chip.isHighSpeed then [(175, 6300000), (8000000, 8400000), (12000000, 12600000)]
  else [(175, 1575000), (2000000, 2100000), (3000000, 3150000)]

/-- A later chip accepts a rate. -/
def Accepts (chip : Chip) (e : Nat) : Prop := ∃ span ∈ acceptedSpans chip, span.1 ≤ e ∧ e ≤ span.2

instance (chip : Chip) (e : Nat) : Decidable (Accepts chip e) :=
  inferInstanceAs (Decidable (∃ span ∈ acceptedSpans chip, span.1 ≤ e ∧ e ≤ span.2))

variable {chip : Chip} {e r u : Nat}

/-- The spans in sixths of the fastest rate. -/
theorem accepts_iff_unit : Accepts chip e ↔
    (175 ≤ e ∧ 20 * e ≤ 63 * unit chip) ∨ (4 * unit chip ≤ e ∧ 20 * e ≤ 84 * unit chip) ∨
      (6 * unit chip ≤ e ∧ 20 * e ≤ 126 * unit chip) := by
  unfold Accepts acceptedSpans unit
  cases chip.isHighSpeed with
  | true =>
    simp only [if_true, List.mem_cons, List.not_mem_nil, or_false, exists_eq_or_imp,
      exists_eq_left]
    omega
  | false =>
    simp only [Bool.false_eq_true, if_false, List.mem_cons, List.not_mem_nil, or_false,
      exists_eq_or_imp, exists_eq_left]
    omega

/-- Each of the three fastest rates is near enough for what is a twentieth above it; below them all
is near enough, but for what is too far below the lowest rate. -/
theorem LaterRate.within_iff (h : LaterRate u e r) (hu : 1000 ≤ u) : withinTolerance e r ↔
    (175 ≤ e ∧ 20 * e ≤ 63 * u) ∨ (4 * u ≤ e ∧ 20 * e ≤ 84 * u) ∨
      (6 * u ≤ e ∧ 20 * e ≤ 126 * u) := by
  cases h with
  | near low high near =>
    exact iff_of_true (within_of_near near) (.inl (by omega))
  | fastest | second | third | lowest =>
    rw [withinTolerance_iff]
    omega

/-- **A later chip has a divisor near enough** for just the rates that it accepts. -/
theorem accepts_iff (hchip : chip ≠ .am) (he : 0 < e) :
    withinTolerance e (search chip e).actual ↔ Accepts chip e := by
  have hunit : 1000 ≤ unit chip := by
    rcases unit_eq chip with h | h
    · omega
    · omega
  rw [(later_rate hchip he).within_iff hunit, accepts_iff_unit]

/-- Beyond the fastest rate of all, no chip has a divisor near enough. -/
theorem not_within_of_large (he : 12600000 < e) :
    ¬ withinTolerance e (search chip e).actual := by
  have hpos : 0 < e := by omega
  by_cases hchip : chip = .am
  · subst hchip
    have hrate := slow_rate hpos
    change ¬ withinTolerance e (slowSearch e).actual
    generalize (slowSearch e).actual = r at hrate ⊢
    rw [withinTolerance_iff]
    cases hrate with
    | _ => omega
  · have hunit := unit_eq chip
    rw [accepts_iff hchip hpos, accepts_iff_unit]
    omega

end PinBridge.Baud
