import PinBridge.Proofs.Baud.Accepted
import PinBridge.Proofs.Play
import PinBridge.Proofs.Session.Refusal

/-!
# Rates that are accepted

Where the bus grants the request, whether a rate is set depends on the chip and on the rate wanted,
which counts the rate asked for fourfold while pins are driven; the interface and all else have no
part in it. `accepted_rates` says which rates are set and by which request, and what comes of all
others.
-/

namespace PinBridge

open Command (effectiveRate)

variable {s : Session} {d : OpenDevice} {rate : UInt32}

theorem effectiveRate_eq_zero (mode : PinMode) : effectiveRate mode rate = 0 ↔ rate = 0 := by
  rw [effectiveRate_eq, ← UInt32.toNat_inj]
  change _ ↔ rate.toNat = 0
  unfold wantedRate
  split
  · omega
  · omega

/-- A later chip accepts nothing that a request cannot be for. -/
theorem accepts_effectiveRate (chip : Chip) (mode : PinMode) :
    Baud.Accepts chip (effectiveRate mode rate) ↔ Baud.Accepts chip (wantedRate mode rate) := by
  have hunit := Baud.unit_eq chip
  rw [effectiveRate_eq, Baud.accepts_iff_unit, Baud.accepts_iff_unit]
  omega

/-- A rate whose fourfold has no room in a request is beyond all chips, in any mode. -/
theorem effectiveRate_of_large (mode : PinMode) (hrate : 0x100000000 ≤ 4 * rate.toNat) :
    12600000 < effectiveRate mode rate := by
  rw [effectiveRate_eq]
  unfold wantedRate
  split
  · omega
  · omega

/-- The rate wanted, where it has room in a request, is the one that a setting is found for. -/
theorem effectiveRate_of_small (mode : PinMode) (hrate : ¬ 0x100000000 ≤ 4 * rate.toNat) :
    effectiveRate mode rate = wantedRate mode rate := by
  rw [effectiveRate_eq]
  unfold wantedRate
  split
  · omega
  · omega

theorem baudRate_perform {t : Session} (ht : t.link = .opened d) :
    Action.baudRate.perform t = .done (.ok d.baudRate, t) := by
  obtain ⟨options, link, staged⟩ := t
  cases ht
  rfl

/-- A rate within the tolerance of what a later chip has is one that it accepts. -/
theorem accepts_iff_within {mode : PinMode} {chip : Chip} (hchip : chip ≠ .am) (hrate : rate ≠ 0) :
    Baud.Accepts chip (wantedRate mode rate) ↔
      Baud.withinTolerance (effectiveRate mode rate)
        (Baud.search chip (effectiveRate mode rate)).actual := by
  have hpos : effectiveRate mode rate ≠ 0 := fun h => hrate ((effectiveRate_eq_zero mode).mp h)
  rw [Baud.accepts_iff hchip (Nat.pos_of_ne_zero hpos), accepts_effectiveRate]

/-- **What comes of a rate** on a bus that grants the request for it: zero is an invalid argument,
what is within the tolerance is set by one request, and all else is unsupported. -/
theorem setBaudRate_play (rate : UInt32) {σ : Type} {bus : Bus σ} {world : σ} (hs : s.link = .opened d)
    (granted : ∀ value index, ∃ after, bus.reply (.controlOut d.handle Request.setBaudRate value
      index s.options.writeTimeout) world = (some (.ok ()), after)) :
    (rate = 0 ∧ (Command.setBaudRate rate s).play bus world =
      ([], some (.error (.invalidArgument "baud rate must be > 0"), s), world)) ∨
    (rate ≠ 0 ∧ Baud.withinTolerance (effectiveRate d.mode rate)
        (Baud.search d.chip (effectiveRate d.mode rate)).actual ∧
      ∃ setting after,
        Baud.Setting.ofRate? d.chip d.channel.index (effectiveRate d.mode rate) = some setting ∧
        bus.reply (.controlOut d.handle Request.setBaudRate setting.value setting.index
          s.options.writeTimeout) world = (some (.ok ()), after) ∧
        (Command.setBaudRate rate s).play bus world =
          ([.asked (.controlOut d.handle Request.setBaudRate setting.value setting.index
            s.options.writeTimeout) (.ok ())],
            some (.ok (), { s with link := .opened { d with baudRate := rate } }), after)) ∨
    (rate ≠ 0 ∧ ¬ Baud.withinTolerance (effectiveRate d.mode rate)
        (Baud.search d.chip (effectiveRate d.mode rate)).actual ∧
      ∃ a, (Command.setBaudRate rate s).play bus world =
        ([], some (.error (.unsupportedBaudRate rate.toNat a), s), world)) := by
  by_cases hrate : rate = 0
  · rw [setBaudRate_of_zero hs ((effectiveRate_eq_zero d.mode).mpr hrate)]
    exact .inl ⟨hrate, rfl⟩
  · have hpos : 0 < effectiveRate d.mode rate :=
      Nat.pos_of_ne_zero fun h => hrate ((effectiveRate_eq_zero d.mode).mp h)
    by_cases hwithin : Baud.withinTolerance (effectiveRate d.mode rate)
        (Baud.search d.chip (effectiveRate d.mode rate)).actual
    · obtain ⟨setting, hsetting, hprogram⟩ := setBaudRate_of_within hs hpos hwithin
      obtain ⟨after, hreply⟩ := granted setting.value setting.index
      refine .inr (.inl ⟨hrate, hwithin, setting, after, hsetting, hreply, ?_⟩)
      rw [hprogram]
      simp only [Program.play, hreply]
      rfl
    · rw [setBaudRate_of_beyond hs hpos hwithin]
      exact .inr (.inr ⟨hrate, hwithin, _, rfl⟩)

/-- **The rates that are accepted**, on any bus that grants the request for them. A later chip is
set to just the rates wanted in its three spans, by one request that carries the setting found for
the rate wanted. Zero is an invalid argument, and all else is refused as unsupported; then nothing
has been sent, and neither session nor bus has changed. The rate of the device is the one asked for
where it has been set, and otherwise the one before. No rate is ever set whose fourfold has no room
in 32 bits. -/
theorem accepted_rates (rate : UInt32) {σ : Type} {bus : Bus σ} {world : σ} (hs : s.link = .opened d)
    (granted : ∀ value index, ∃ after, bus.reply (.controlOut d.handle Request.setBaudRate value
      index s.options.writeTimeout) world = (some (.ok ()), after)) :
    ∃ events r t after,
      ((Action.setBaudRate rate).perform s).play bus world = (events, some (r, t), after) ∧
      (d.chip ≠ .am → (r = .ok () ↔ Baud.Accepts d.chip (wantedRate d.mode rate))) ∧
      ((∃ reason, r = .error (.invalidArgument reason)) ↔ rate = 0) ∧
      ((∃ a, r = .error (.unsupportedBaudRate rate.toNat a)) ↔ rate ≠ 0 ∧ r ≠ .ok ()) ∧
      (r = .ok () → t = { s with link := .opened { d with baudRate := rate } } ∧
        Action.baudRate.perform t = .done (.ok rate, t) ∧
        ∃ setting,
          Baud.Setting.ofRate? d.chip d.channel.index (wantedRate d.mode rate) = some setting ∧
          events = [.asked (.controlOut d.handle Request.setBaudRate setting.value setting.index
            s.options.writeTimeout) (.ok ())] ∧
          bus.reply (.controlOut d.handle Request.setBaudRate setting.value setting.index
            s.options.writeTimeout) world = (some (.ok ()), after)) ∧
      (r ≠ .ok () → events = [] ∧ t = s ∧ after = world ∧
        Action.baudRate.perform t = .done (.ok d.baudRate, t)) ∧
      (0x100000000 ≤ 4 * rate.toNat → r ≠ .ok ()) := by
  have hbefore := baudRate_perform hs
  rcases setBaudRate_play rate hs granted with
    ⟨hrate, hplay⟩ | ⟨hrate, hwithin, setting, after, hsetting, hreply, hplay⟩ |
    ⟨hrate, hbeyond, a, hplay⟩
  · have hnone : ¬ Baud.Accepts d.chip (wantedRate d.mode rate) := by
      have hzero : wantedRate d.mode 0 = 0 := by
        unfold wantedRate
        split <;> rfl
      rw [hrate, hzero, Baud.accepts_iff_unit]
      have hunit := Baud.unit_eq d.chip
      omega
    refine ⟨_, _, _, _, hplay, fun _ => iff_of_false (by simp) hnone, ?_⟩
    simp [hrate, hbefore]
  · have hsmall : ¬ 0x100000000 ≤ 4 * rate.toNat := fun hlarge =>
      Baud.not_within_of_large (effectiveRate_of_large d.mode hlarge) hwithin
    have hreads : Action.baudRate.perform { s with link := .opened { d with baudRate := rate } } =
        .done (.ok rate, { s with link := .opened { d with baudRate := rate } }) :=
      baudRate_perform (d := { d with baudRate := rate }) rfl
    rw [effectiveRate_of_small d.mode hsmall] at hsetting
    refine ⟨_, _, _, _, hplay,
      fun hchip => iff_of_true rfl ((accepts_iff_within hchip hrate).mpr hwithin),
      by simp [hrate], by simp [hrate],
      fun _ => ⟨rfl, hreads, setting, hsetting, rfl, hreply⟩,
      fun hfailed => absurd rfl hfailed, fun hlarge => absurd hlarge hsmall⟩
  · refine ⟨_, _, _, _, hplay, fun hchip => iff_of_false (by simp)
      fun h => hbeyond ((accepts_iff_within hchip hrate).mp h), ?_⟩
    simp [hrate, hbefore]

/-- With driven pins the last rate of the first span is a quarter of 1575000, which is set by the
code for 1500000. -/
theorem accepted_rates_393750 : ∃ t after,
    ((Action.setBaudRate 393750).perform ⟨.default, .opened Sample.drivenDevice, none⟩).play
      Sample.granting () = ([.asked (.controlOut Sample.drivenDevice.handle Request.setBaudRate 2 0
        5000) (.ok ())], some (.ok (), t), after) ∧
      Action.baudRate.perform t = .done (.ok 393750, t) := by
  have opened : (Session.mk .default (.opened Sample.drivenDevice) none).link =
      .opened Sample.drivenDevice := rfl
  have granted : ∀ value index, ∃ after, Sample.granting.reply (.controlOut
      Sample.drivenDevice.handle Request.setBaudRate value index 5000) () =
        (some (.ok ()), after) := fun _ _ => ⟨(), rfl⟩
  have hfound : Baud.Setting.ofRate? Sample.drivenDevice.chip Sample.drivenDevice.channel.index
      (wantedRate Sample.drivenDevice.mode 393750) = some ⟨1500000, 2, 0⟩ := by
    decide
  obtain ⟨events, r, t, after, hplay, haccepted, -, -, hset, -⟩ :=
    accepted_rates 393750 opened granted
  have hr : r = .ok () := (haccepted (by decide)).mpr (by decide)
  subst hr
  obtain ⟨-, hrate, setting, hsetting, hevents, -⟩ := hset rfl
  obtain rfl := Option.some.inj (hfound.symm.trans hsetting)
  exact ⟨t, after, hevents ▸ hplay, hrate⟩

end PinBridge
