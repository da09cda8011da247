import PinBridge.Proofs.Baud.Nearest
import PinBridge.Proofs.Session.BaudRate

/-!
# Rates that are refused

A rate that is refused is refused without a request, and the error tells a rate that the chip has.
That rate is the nearest one unless one has been passed over (`reported_rate_nearest_iff`). To ask
for it next succeeds on the serial line; with driven pins, where a rate counts fourfold, it succeeds
for the lowest rate only, since the error does not count it back (`reported_rate_asked_for`).
-/

namespace PinBridge

open Command (effectiveRate)

/-- The rate wanted for a rate asked for. -/
def wantedRate (mode : PinMode) (rate : UInt32) : Nat :=
  if mode = .normal then rate.toNat else 4 * rate.toNat

variable {s t : Session} {rate : UInt32} {requested a : Nat}

theorem effectiveRate_eq (mode : PinMode) (rate : UInt32) :
    effectiveRate mode rate = min (wantedRate mode rate) 0xFFFFFFFF := by
  have hlt := rate.toNat_lt
  unfold effectiveRate wantedRate Command.maxRate
  split
  · omega
  · omega

/-! ### A rate that is asked for -/

/-- A rate of zero is an invalid argument. -/
theorem setBaudRate_of_zero {d : OpenDevice} (hs : s.link = .opened d)
    (hzero : effectiveRate d.mode rate = 0) : Command.setBaudRate rate s =
      .done (.error (.invalidArgument "baud rate must be > 0"), s) := by
  obtain ⟨options, link, staged⟩ := s
  cases hs
  have hset : Baud.Setting.ofRate? d.chip d.channel.index 0 = none := rfl
  unfold Command.setBaudRate
  simp only [bind, Command.bind, Command.device, Session.device, Program.bind, hzero, hset]
  rfl

/-- A rate within the tolerance is asked for by one request, which carries the setting found for it,
and is that of the device if the request is granted. -/
theorem setBaudRate_of_within {d : OpenDevice} (hs : s.link = .opened d)
    (hpos : 0 < effectiveRate d.mode rate)
    (hwithin : Baud.withinTolerance (effectiveRate d.mode rate)
      (Baud.search d.chip (effectiveRate d.mode rate)).actual) :
    ∃ setting,
      Baud.Setting.ofRate? d.chip d.channel.index (effectiveRate d.mode rate) = some setting ∧
      Command.setBaudRate rate s = .call (.controlOut d.handle Request.setBaudRate setting.value
        setting.index s.options.writeTimeout) fun
          | .ok () => .done (.ok (), { s with link := .opened { d with baudRate := rate } })
          | .error e => .done (.error e, s) := by
  obtain ⟨options, link, staged⟩ := s
  cases hs
  have hset := Baud.ofRate?_eq d.chip d.channel.index hpos
  generalize Baud.search d.chip (effectiveRate d.mode rate) = choice at hset hwithin
  refine ⟨_, hset, ?_⟩
  unfold Command.setBaudRate
  simp only [bind, Command.bind, Command.device, Session.device, Program.bind, hset]
  change (if Baud.withinTolerance (effectiveRate d.mode rate) choice.actual then _
    else _ : Command Unit) _ = _
  rw [if_pos hwithin]
  refine congrArg (Program.call _) (funext fun reply => ?_)
  rcases reply with e | a
  · rfl
  · rfl

/-- A rate beyond the tolerance is refused without a request. -/
theorem setBaudRate_of_beyond {d : OpenDevice} (hs : s.link = .opened d)
    (hpos : 0 < effectiveRate d.mode rate)
    (hbeyond : ¬ Baud.withinTolerance (effectiveRate d.mode rate)
      (Baud.search d.chip (effectiveRate d.mode rate)).actual) :
    Command.setBaudRate rate s = .done (.error (.unsupportedBaudRate rate.toNat
      (Baud.search d.chip (effectiveRate d.mode rate)).actual), s) := by
  obtain ⟨options, link, staged⟩ := s
  cases hs
  have hset := Baud.ofRate?_eq d.chip d.channel.index hpos
  generalize Baud.search d.chip (effectiveRate d.mode rate) = choice at hset hbeyond
  unfold Command.setBaudRate
  simp only [bind, Command.bind, Command.device, Session.device, Program.bind, hset]
  change (if Baud.withinTolerance (effectiveRate d.mode rate) choice.actual then _
    else _ : Command Unit) _ = _
  rw [if_neg hbeyond]
  rfl

/-- What comes of asking an open device for a rate but zero. -/
theorem setBaudRate_course_of_pos {d : OpenDevice} {events : List Event} {r : Except Error Unit}
    (hs : s.link = .opened d) (hpos : 0 < effectiveRate d.mode rate) :
    (Command.setBaudRate rate).Course s events r t ↔
      if Baud.withinTolerance (effectiveRate d.mode rate)
          (Baud.search d.chip (effectiveRate d.mode rate)).actual then
        Requested s d { d with baudRate := rate } Request.setBaudRate
          (Baud.Setting.ofChoice d.chip d.channel.index
            (Baud.search d.chip (effectiveRate d.mode rate))).value
          (Baud.Setting.ofChoice d.chip d.channel.index
            (Baud.search d.chip (effectiveRate d.mode rate))).index events r t
      else events = [] ∧ r = .error (.unsupportedBaudRate rate.toNat
        (Baud.search d.chip (effectiveRate d.mode rate)).actual) ∧ t = s := by
  rw [setBaudRate_course, hs]
  simp only [Baud.ofRate?_eq _ _ hpos]
  exact Iff.rfl

theorem setBaudRate_course_of_refused {d : OpenDevice} (hs : s.link = .opened d)
    (hpos : 0 < effectiveRate d.mode rate)
    (hrefused : ¬ Baud.withinTolerance (effectiveRate d.mode rate)
      (Baud.search d.chip (effectiveRate d.mode rate)).actual) :
    (Action.setBaudRate rate).perform.Course s [] (.error (.unsupportedBaudRate rate.toNat
      (Baud.search d.chip (effectiveRate d.mode rate)).actual)) s :=
  (setBaudRate_course_of_pos hs hpos).mpr (if_neg hrefused ▸ ⟨rfl, rfl, rfl⟩)

/-- **A refusal**: nothing has been asked of the chip, nothing has changed, and the rate wanted is
in a span for which the rate of the error is reported. -/
theorem setBaudRate_refused
    (h : (Command.setBaudRate rate).Course s [] (.error (.unsupportedBaudRate requested a)) t) :
    ∃ d, s.link = .opened d ∧ t = s ∧ requested = rate.toNat ∧
      Baud.Achievable d.chip a ∧
      Baud.RefusedAs (Baud.refusals d.chip) (wantedRate d.mode rate) a := by
  have hbound := rate.toNat_lt
  cases hs : s.link with
  | unopened | closed =>
    have hc := setBaudRate_course.mp h
    rw [hs] at hc
    obtain ⟨-, hc, -⟩ := hc
    cases hc
  | opened d =>
    have heffective := effectiveRate_eq d.mode rate
    have hwanted : wantedRate d.mode rate ≤ Baud.maxWanted := by
      unfold wantedRate Baud.maxWanted
      split
      · omega
      · omega
    rcases Nat.eq_zero_or_pos (effectiveRate d.mode rate) with hzero | hpos
    · have hc := setBaudRate_course.mp h
      rw [hs] at hc
      simp only [hzero] at hc
      obtain ⟨-, hc, -⟩ := hc
      cases hc
    · have hc := (setBaudRate_course_of_pos hs hpos).mp h
      split at hc
      · rcases hc with ⟨_, hc, -⟩ | ⟨_, hc, -⟩
        · cases hc
        · cases hc
      · next hrefused =>
        obtain ⟨-, hc, rfl⟩ := hc
        cases hc
        have hrequest : (UInt32.ofNat (effectiveRate d.mode rate)).toNat =
            effectiveRate d.mode rate := by
          rw [UInt32.toNat_ofNat']
          exact Nat.mod_eq_of_lt (by omega)
        have hachievable : Baud.Achievable d.chip
            (Baud.search d.chip (UInt32.ofNat (effectiveRate d.mode rate)).toNat).actual :=
          Baud.achievable_search _ (by omega)
        rw [hrequest] at hachievable
        have hle : effectiveRate d.mode rate ≤ Baud.maxWanted := by
          unfold Baud.maxWanted
          omega
        have hspan := (Baud.refused_iff hpos hle).mp ⟨hrefused, rfl⟩
        generalize (Baud.search d.chip (effectiveRate d.mode rate)).actual = a at *
        rw [heffective] at hspan
        exact ⟨d, rfl, rfl, rfl, hachievable, hspan.of_min hwanted⟩

/-- **The rate that is reported with a refusal is the nearest one just where none is passed over**,
and then no rate that the chip has is near enough. -/
theorem reported_rate_nearest_iff
    (h : (Action.setBaudRate rate).perform.Course s [] (.error (.unsupportedBaudRate requested a))
      t) :
    ∃ d, s.link = .opened d ∧ Baud.Achievable d.chip a ∧
      ((∀ r, Baud.Achievable d.chip r →
          Baud.distance a (wantedRate d.mode rate) ≤ Baud.distance r (wantedRate d.mode rate)) ↔
        ¬ Baud.PassedOver d.chip (wantedRate d.mode rate)) ∧
      (¬ Baud.PassedOver d.chip (wantedRate d.mode rate) →
        ∀ r, Baud.Achievable d.chip r → ¬ Baud.withinTolerance (wantedRate d.mode rate) r) := by
  obtain ⟨d, hs, -, -, hachievable, hspan⟩ := setBaudRate_refused h
  exact ⟨d, hs, hachievable, Baud.isNearest_iff hspan, fun hpassed r hr =>
    (Baud.nearest_of_not_passedOver hspan hpassed hr).2⟩

theorem Sample.refused_1600000 :
    (Action.setBaudRate 1600000).perform.Course ⟨.default, .opened Sample.device, none⟩ []
      (.error (.unsupportedBaudRate 1600000 1500000)) ⟨.default, .opened Sample.device, none⟩ :=
  setBaudRate_course_of_refused (d := Sample.device) rfl (by decide) (by decide)

/-- Of the rates of a chip, 1500000 is the nearest to 1600000, and not near enough. -/
theorem reported_rate_nearest_1600000 :
    (∀ r, Baud.Achievable .ft232r r → Baud.distance 1500000 1600000 ≤ Baud.distance r 1600000) ∧
      ∀ r, Baud.Achievable .ft232r r → ¬ Baud.withinTolerance 1600000 r := by
  have hpassed : ¬ Baud.PassedOver .ft232r 1600000 := by decide
  obtain ⟨d, hs, -, hiff, hnone⟩ := reported_rate_nearest_iff Sample.refused_1600000
  cases hs
  exact ⟨hiff.mpr hpassed, hnone hpassed⟩

/-- For 1900000 the rate reported is 1500000, though the chip has 2000000. -/
theorem reported_rate_not_nearest :
    (Action.setBaudRate 1900000).perform.Course ⟨.default, .opened Sample.device, none⟩ []
        (.error (.unsupportedBaudRate 1900000 1500000))
        ⟨.default, .opened Sample.device, none⟩ ∧
      ¬ ∀ r, Baud.Achievable Sample.device.chip r →
        Baud.distance 1500000 (wantedRate Sample.device.mode 1900000) ≤
          Baud.distance r (wantedRate Sample.device.mode 1900000) := by
  refine ⟨setBaudRate_course_of_refused (d := Sample.device) rfl (by decide) (by decide), ?_⟩
  intro hnearest
  exact absurd (hnearest 2000000 (Baud.achievable_search 2000000 (by decide))) (by decide)

/-! ### To ask for the rate reported -/

/-- A bus that grants all requests without data. -/
def Bus.Grants {σ : Type} (bus : Bus σ) : Prop :=
  ∀ handle request value index timeout world, ∃ after,
    bus.reply (.controlOut handle request value index timeout) world = (some (.ok ()), after)

/-- A rate within the tolerance is set on every bus that grants the request for it. -/
theorem setBaudRate_run {σ : Type} {bus : Bus σ} {d : OpenDevice} (hs : s.link = .opened d)
    (hpos : 0 < effectiveRate d.mode rate)
    (hwithin : Baud.withinTolerance (effectiveRate d.mode rate)
      (Baud.search d.chip (effectiveRate d.mode rate)).actual) (hgrants : bus.Grants) (world : σ) :
    ∃ after, (Command.setBaudRate rate s).run bus world =
      (some (.ok (), { s with link := .opened { d with baudRate := rate } }), after) := by
  obtain ⟨setting, -, hprogram⟩ := setBaudRate_of_within hs hpos hwithin
  obtain ⟨after, hreply⟩ := hgrants d.handle Request.setBaudRate setting.value setting.index
    s.options.writeTimeout world
  refine ⟨after, ?_⟩
  rw [hprogram]
  simp only [Program.run, hreply]

/-- The rate wanted for a rate that is small enough to be counted fourfold. -/
theorem effectiveRate_ofNat (mode : PinMode) (ha : a ≤ 12000000) :
    (UInt32.ofNat a).toNat = a ∧
      effectiveRate mode (UInt32.ofNat a) = if mode = .normal then a else 4 * a := by
  have hrate : (UInt32.ofNat a).toNat = a := by
    rw [UInt32.toNat_ofNat']
    exact Nat.mod_eq_of_lt (by omega)
  refine ⟨hrate, ?_⟩
  rw [effectiveRate_eq]
  unfold wantedRate
  rw [hrate]
  split
  · omega
  · omega

/-- **To ask for the rate that is reported with a refusal** succeeds on the serial line, if only the
request is granted. With driven pins it succeeds where the rate wanted is below the lowest one;
everything else is refused again, on any bus. -/
theorem reported_rate_asked_for
    (h : (Action.setBaudRate rate).perform.Course s [] (.error (.unsupportedBaudRate requested a))
      t) :
    t = s ∧ requested = rate.toNat ∧ (UInt32.ofNat a).toNat = a ∧ ∃ d, s.link = .opened d ∧
      (d.mode = .normal ∨ wantedRate d.mode rate < 175 →
        ∀ {σ : Type} {bus : Bus σ} (world : σ), bus.Grants → ∃ u after,
          ((Action.setBaudRate (UInt32.ofNat a)).perform t).run bus world =
            (some (.ok (), u), after)) ∧
      (¬ (d.mode = .normal ∨ wantedRate d.mode rate < 175) →
        ∀ events r u, (Action.setBaudRate (UInt32.ofNat a)).perform.Course t events r u →
          events = [] ∧ u = t ∧ ∃ again, r = .error (.unsupportedBaudRate a again)) := by
  obtain ⟨d, hs, rfl, rfl, -, hspan⟩ := setBaudRate_refused h
  obtain ⟨hpos, hle, htaken, hfourfold⟩ := hspan.reported
  obtain ⟨hrate, heffective⟩ := effectiveRate_ofNat d.mode hle
  have heffective_pos : 0 < effectiveRate d.mode (UInt32.ofNat a) := by
    rw [heffective]
    split
    · omega
    · omega
  have hwithin : Baud.withinTolerance (effectiveRate d.mode (UInt32.ofNat a))
      (Baud.search d.chip (effectiveRate d.mode (UInt32.ofNat a))).actual ↔
      d.mode = .normal ∨ wantedRate d.mode rate < 175 := by
    rw [heffective]
    by_cases hmode : d.mode = .normal
    · simp only [if_pos hmode]
      exact iff_of_true htaken (.inl hmode)
    · simp only [if_neg hmode]
      rw [hfourfold]
      exact (or_iff_right hmode).symm
  refine ⟨rfl, rfl, hrate, d, hs, fun hlow σ bus world hgrants => ?_, fun hnot events r u hc => ?_⟩
  · obtain ⟨after, hrun⟩ := setBaudRate_run hs heffective_pos (hwithin.mpr hlow) hgrants world
    exact ⟨_, after, hrun⟩
  · have hc := (setBaudRate_course_of_pos hs heffective_pos).mp hc
    rw [if_neg fun hw => hnot (hwithin.mp hw), hrate] at hc
    exact ⟨hc.1, hc.2.2, _, hc.2.1⟩

namespace Sample

/-- A bus that grants requests without data and nothing else. -/
def granting : Bus Unit where
  reply c _ :=
    match c with
    | .controlOut .. => (some (.ok ()), ())
    | _ => (none, ())
  release _ _ := ()
  note _ _ := ()

/-- The device with its pins driven. -/
def drivenDevice : OpenDevice := { device with mode := .driven .bitBang }

end Sample

/-- The rate reported for 1600000 is set next. -/
theorem reported_rate_asked_for_1500000 : ∃ u after,
    ((Action.setBaudRate 1500000).perform ⟨.default, .opened Sample.device, none⟩).run
      Sample.granting () = (some (.ok (), u), after) := by
  obtain ⟨-, -, -, d, hs, haccepted, -⟩ := reported_rate_asked_for Sample.refused_1600000
  cases hs
  exact haccepted (.inl rfl) () fun _ _ _ _ _ _ => ⟨(), rfl⟩

/-- With driven pins the rate reported for 600000 is 2000000, which is refused in its turn. -/
theorem reported_rate_refused :
    (Action.setBaudRate 600000).perform.Course ⟨.default, .opened Sample.drivenDevice, none⟩ []
        (.error (.unsupportedBaudRate 600000 2000000))
        ⟨.default, .opened Sample.drivenDevice, none⟩ ∧
      ¬ ∃ events u, (Action.setBaudRate 2000000).perform.Course
        ⟨.default, .opened Sample.drivenDevice, none⟩ events (.ok ()) u := by
  refine ⟨setBaudRate_course_of_refused (d := Sample.drivenDevice) rfl (by decide) (by decide), ?_⟩
  rintro ⟨events, u, hc⟩
  have hc := (setBaudRate_course_of_pos (d := Sample.drivenDevice) rfl (by decide)).mp hc
  rw [if_neg (by decide)] at hc
  cases hc.2.1

end PinBridge
