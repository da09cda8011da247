import PinBridge.Proofs.Baud.Refusals

/-!
# Whether the rate reported is the nearest one

`Achievable` are the rates that a chip can be set to at all. A rate that is refused is reported with
one of them, and mostly that is the nearest one, and none is near enough. The exceptions are the
rates of `passedOver`: there a nearer one has not been tried (`isNearest_iff`), since the fastest
rates are each taken for all that is asked for up to the next one, and since an early chip tries two
divisors of which the quotient need not lie between.
-/

namespace PinBridge.Baud

/-- A rate that a chip reports for some request or other. -/
def Achievable (chip : Chip) (r : Nat) : Prop :=
  ∃ (channel : UInt16) (request : UInt32) (setting : Setting),
    Setting.ofRate? chip channel request.toNat = some setting ∧ setting.actual = r

variable {chip : Chip} {e a r : Nat}

theorem achievable_iff : Achievable chip r ↔
    ∃ request : UInt32, 0 < request.toNat ∧ (search chip request.toNat).actual = r := by
  constructor
  · rintro ⟨channel, request, setting, hsetting, rfl⟩
    rcases Nat.eq_zero_or_pos request.toNat with hzero | hpos
    · rw [hzero] at hsetting
      cases hsetting
    · rw [ofRate?_eq _ _ hpos] at hsetting
      cases hsetting
      exact ⟨request, hpos, rfl⟩
  · rintro ⟨request, hpos, rfl⟩
    exact ⟨0, request, _, ofRate?_eq chip 0 hpos, rfl⟩

theorem achievable_search (request : UInt32) (hpos : 0 < request.toNat) :
    Achievable chip (search chip request.toNat).actual := achievable_iff.mpr ⟨request, hpos, rfl⟩

/-! ### The rates that there are -/

theorem rateOf_usable (ref : Nat) {d : Nat} (h : Usable d) :
    rateOf ref 0x1FFFF ≤ rateOf ref d ∧
      (rateOf ref d = rateOf ref 8 ∨ rateOf ref d = rateOf ref 12 ∨
        rateOf ref d ≤ rateOf ref 16) := by
  obtain ⟨hlow, hhigh⟩ := h.bounds
  refine ⟨rateOf_anti (by omega) (by omega), ?_⟩
  rcases h with rfl | rfl | ⟨h16, -⟩
  · exact .inl rfl
  · exact .inr (.inl rfl)
  · exact .inr (.inr (rateOf_anti (by decide) h16))

/-- No chip has a rate between the three fastest ones, or one below the lowest. -/
theorem Achievable.spans (h : Achievable chip r) :
    183 ≤ r ∧ (r = 6 * unit chip ∨ r = 4 * unit chip ∨ r ≤ 3 * unit chip) := by
  obtain ⟨request, hpos, rfl⟩ := achievable_iff.mp h
  have husable := divisorFor_usable chip hpos
  rw [search_eq chip hpos]
  unfold unit
  cases hfast : takesFastClock chip request.toNat with
  | true =>
    have hhigh := (takesFastClock_iff.mp hfast).1
    obtain ⟨hlow, hspan⟩ := rateOf_usable 96000000 husable
    have hlowest : rateOf 96000000 0x1FFFF = 732 := rfl
    simp only [hhigh, if_true]
    exact ⟨by omega, hspan⟩
  | false =>
    obtain ⟨hlow, hspan⟩ := rateOf_usable 24000000 husable
    have hlowest : rateOf 24000000 0x1FFFF = 183 := rfl
    have hfastest : rateOf 24000000 8 = 3000000 ∧ rateOf 24000000 12 = 2000000 ∧
        rateOf 24000000 16 = 1500000 := ⟨rfl, rfl, rfl⟩
    simp only [Bool.false_eq_true, if_false]
    change 183 ≤ rateOf 24000000 _ ∧ _
    refine ⟨by omega, ?_⟩
    change rateOf 24000000 _ = _ ∨ rateOf 24000000 _ = _ ∨ rateOf 24000000 _ ≤ _
    split
    · omega
    · omega

/-- The candidates of an early chip have the eighths that it has. -/
theorem slowCandidate_eighths (base step : Nat) :
    slowCandidate base step = 8 ∨
      (16 ≤ slowCandidate base step ∧ slowCandidate base step % 8 ∉ [3, 5, 7]) := by
  unfold slowCandidate
  split
  · exact .inl rfl
  · split
    · exact .inr (by decide)
    · have htable : ∀ x < 8, (x + shortfall x) % 8 ∉ [3, 5, 7] := by decide
      have heighths := htable ((base + step) % 8) (Nat.mod_lt _ (by decide))
      have hlimit : slowLimit = 0x1FFF8 := rfl
      rw [shortfall_mod, Nat.mod_add_mod] at heighths
      rcases Nat.le_total (base + step + shortfall (base + step)) slowLimit with h | h
      · rw [Nat.min_eq_left h]
        exact .inr ⟨by omega, heighths⟩
      · rw [Nat.min_eq_right h]
        exact .inr (by decide)

/-- An early chip has fewer rates: none of one and a half, and none between the divisors 18 and 20.
-/
theorem Achievable.slow (h : Achievable .am r) :
    (r = 3000000 ∨ r ≤ 1500000) ∧ (r ≤ 1200000 ∨ 1333333 ≤ r) := by
  obtain ⟨request, hpos, rfl⟩ := achievable_iff.mp h
  have hdivisor : slowDivisor request.toNat = 8 ∨
      (16 ≤ slowDivisor request.toNat ∧ slowDivisor request.toNat % 8 ∉ [3, 5, 7]) := by
    unfold slowDivisor
    simp only
    split
    · exact slowCandidate_eighths _ _
    · exact slowCandidate_eighths _ _
  have hrates : rateOf slowClock 8 = 3000000 ∧ rateOf slowClock 16 = 1500000 ∧
      rateOf slowClock 18 = 1333333 ∧ rateOf slowClock 20 = 1200000 := ⟨rfl, rfl, rfl, rfl⟩
  rw [search_am, slowSearch_eq]
  change (rateOf slowClock _ = _ ∨ rateOf slowClock _ ≤ _) ∧
    (rateOf slowClock _ ≤ _ ∨ _ ≤ rateOf slowClock _)
  generalize slowDivisor request.toNat = d at hdivisor ⊢
  rcases hdivisor with rfl | ⟨h16, heighths⟩
  · omega
  · have hanti : ∀ c, 0 < c → c ≤ d → rateOf slowClock d ≤ rateOf slowClock c :=
      fun c hc hcd => rateOf_anti hc hcd
    have h16 := hanti 16 (by decide) h16
    refine ⟨by omega, ?_⟩
    rcases Nat.lt_or_ge d 20 with hlt | hge
    · have hle : d ≤ 18 := by
        simp only [List.mem_cons, List.not_mem_nil, or_false] at heighths
        omega
      have h18 : rateOf slowClock 18 ≤ rateOf slowClock d := rateOf_anti (by omega) hle
      omega
    · have h20 := hanti 20 (by decide) hge
      omega

/-! ### The nearest one -/

/-- **The rates that are passed over**: refused though a nearer one than is reported is there. -/
def passedOver (chip : Chip) : List (Nat × Nat) :=
  if chip = .am then
    [(631579, 634920), (800001, 816326), (1090910, 1142857), (2250001, 2666666)]
  else [(7 * unit chip / 2 + 1, 4 * unit chip - 1), (5 * unit chip + 1, 6 * unit chip - 1)]

/-- A rate is passed over. -/
def PassedOver (chip : Chip) (e : Nat) : Prop := ∃ span ∈ passedOver chip, span.1 ≤ e ∧ e ≤ span.2

instance (chip : Chip) (e : Nat) : Decidable (PassedOver chip e) :=
  inferInstanceAs (Decidable (∃ span ∈ passedOver chip, span.1 ≤ e ∧ e ≤ span.2))

theorem passedOver_later (hchip : chip ≠ .am) : PassedOver chip e ↔
    (7 * unit chip / 2 + 1 ≤ e ∧ e ≤ 4 * unit chip - 1) ∨
      (5 * unit chip + 1 ≤ e ∧ e ≤ 6 * unit chip - 1) := by
  unfold PassedOver passedOver
  rw [if_neg hchip]
  simp only [List.mem_cons, List.not_mem_nil, or_false, exists_eq_or_imp, exists_eq_left]

theorem passedOver_slow : PassedOver .am e ↔
    (631579 ≤ e ∧ e ≤ 634920) ∨ (800001 ≤ e ∧ e ≤ 816326) ∨ (1090910 ≤ e ∧ e ≤ 1142857) ∨
      (2250001 ≤ e ∧ e ≤ 2666666) := by
  unfold PassedOver passedOver
  simp only [if_true, List.mem_cons, List.not_mem_nil, or_false, exists_eq_or_imp, exists_eq_left]

/-- **A rate as near as any** that there is. -/
def IsNearest (chip : Chip) (e a : Nat) : Prop :=
  ∀ r, Achievable chip r → distance a e ≤ distance r e

/-- A later chip takes its two fastest rates for themselves. -/
theorem achievable_fast (hchip : chip ≠ .am) :
    Achievable chip (4 * unit chip) ∧ Achievable chip (6 * unit chip) := by
  cases chip with
  | am => exact absurd rfl hchip
  | ft2232h | ft4232h | ft232h =>
    exact ⟨achievable_search 8000000 (by decide), achievable_search 12000000 (by decide)⟩
  | bm | ft2232c | ft232r | ft230x =>
    exact ⟨achievable_search 2000000 (by decide), achievable_search 3000000 (by decide)⟩

/-- What a later chip passes over has one of its two fastest rates nearer. -/
theorem later_not_nearest (hchip : chip ≠ .am) (h : RefusedAs (laterRefusals (unit chip)) e a)
    (hpassed : PassedOver chip e) : ¬ IsNearest chip e a := by
  intro hnearest
  obtain ⟨hfour, hsix⟩ := achievable_fast hchip
  have hunit := unit_eq chip
  have h4 := hnearest _ hfour
  have h6 := hnearest _ hsix
  unfold distance at h4 h6
  rw [passedOver_later hchip] at hpassed
  rcases refusedAs_later.mp h with h | h | h | h
  all_goals omega

theorem later_nearest (hchip : chip ≠ .am) (h : RefusedAs (laterRefusals (unit chip)) e a)
    (hpassed : ¬ PassedOver chip e) (hr : Achievable chip r) :
    distance a e ≤ distance r e ∧ ¬ withinTolerance e r := by
  have hspan := hr.spans
  have hunit := unit_eq chip
  rw [passedOver_later hchip] at hpassed
  rw [withinTolerance_iff]
  unfold distance
  rcases refusedAs_later.mp h with h | h | h | h
  all_goals omega

/-- What an early chip passes over has one of four rates nearer. -/
theorem slow_not_nearest (h : RefusedAs slowRefusals e a) (hpassed : PassedOver .am e) :
    ¬ IsNearest .am e a := by
  intro hnearest
  have h38 : distance a e ≤ distance 631579 e := hnearest _ (achievable_search 649000 (by decide))
  have h30 : distance a e ≤ distance 800000 e := hnearest _ (achievable_search 828000 (by decide))
  have h22 : distance a e ≤ distance 1090909 e :=
    hnearest _ (achievable_search 1143000 (by decide))
  have h8 : distance a e ≤ distance 3000000 e := hnearest _ (achievable_search 3000000 (by decide))
  unfold distance at h38 h30 h22 h8
  rw [passedOver_slow] at hpassed
  rcases refusedAs_slow.mp h with h | h | h | h | h | h | h | h | h
  all_goals omega

theorem slow_nearest (h : RefusedAs slowRefusals e a) (hpassed : ¬ PassedOver .am e)
    (hr : Achievable .am r) : distance a e ≤ distance r e ∧ ¬ withinTolerance e r := by
  have hspan := hr.spans
  have hslow := hr.slow
  rw [passedOver_slow] at hpassed
  rw [withinTolerance_iff]
  unfold distance
  rcases refusedAs_slow.mp h with h | h | h | h | h | h | h | h | h
  all_goals omega

/-- A refusal that is not passed over has no rate nearer than is reported, and none near enough. -/
theorem nearest_of_not_passedOver (h : RefusedAs (refusals chip) e a)
    (hpassed : ¬ PassedOver chip e) (hr : Achievable chip r) :
    distance a e ≤ distance r e ∧ ¬ withinTolerance e r := by
  unfold refusals at h
  split at h
  · next hchip =>
    subst hchip
    exact slow_nearest h hpassed hr
  · next hchip => exact later_nearest hchip h hpassed hr

/-- **The rate reported is the nearest one just where none is passed over.** -/
theorem isNearest_iff (h : RefusedAs (refusals chip) e a) :
    IsNearest chip e a ↔ ¬ PassedOver chip e := by
  constructor
  · intro hnearest hpassed
    unfold refusals at h
    split at h
    · next hchip =>
      subst hchip
      exact slow_not_nearest h hpassed hnearest
    · next hchip => exact later_not_nearest hchip h hpassed hnearest
  · exact fun hpassed r hr => (nearest_of_not_passedOver h hpassed hr).1

end PinBridge.Baud
