import PinBridge.Proofs.Baud.Search
import PinBridge.Proofs.Session.Run

/-!
# What a chip makes of the baud rate

A chip that has been asked for a rate reads the code in the request back as the divisor that the
library has found, and so works at the rate that the library has reckoned with
(`rate_decodes`). That is as near to the rate asked for as the tolerance wants it.
-/

namespace PinBridge

open Command (effectiveRate)

variable {history : List Turn} {s t : Session}

theorem Interface.channel_index (interface : Interface) :
    1 ≤ interface.channel.index.toNat ∧ interface.channel.index.toNat ≤ 4 := by
  cases interface <;> decide

/-- The channel of the open device is that of an interface. -/
theorem Run.exists_interface (run : Run history s) :
    ∀ d, s.link = .opened d → ∃ interface : Interface, d.channel = interface.channel := by
  refine run.invariant
    (P := fun _ s => ∀ d, s.link = .opened d →
      ∃ interface : Interface, d.channel = interface.channel)
    ?_ ?_
  · intro options s made d hd
    rw [(Session.new_ok made).1] at hd
    cases hd
  · intro history s turn t h change d hd
    cases change with
    | idle | configured | staged => exact h d hd
    | tuned link | flushed link | halfPurged link | taken link | refilled link =>
      cases hd
      obtain ⟨interface, hinterface⟩ := h _ link
      exact ⟨interface, hinterface⟩
    | opened =>
      cases hd
      exact ⟨_, rfl⟩
    | closed => cases hd

/-- A rate that has been set was found within the tolerance, and asked for by one request. -/
theorem setBaudRate_ok {rate : UInt32} {events : List Event}
    (h : (Command.setBaudRate rate).Course s events (.ok ()) t) :
    ∃ d, s.link = .opened d ∧ 0 < effectiveRate d.mode rate ∧
      Baud.withinTolerance (effectiveRate d.mode rate)
        (Baud.search d.chip (effectiveRate d.mode rate)).actual ∧
      events = [.asked (.controlOut d.handle Request.setBaudRate
        (Baud.Setting.ofChoice d.chip d.channel.index
          (Baud.search d.chip (effectiveRate d.mode rate))).value
        (Baud.Setting.ofChoice d.chip d.channel.index
          (Baud.search d.chip (effectiveRate d.mode rate))).index s.options.writeTimeout)
        (.ok ())] := by
  have hc := setBaudRate_course.mp h
  split at hc
  · next d hd =>
    rcases Nat.eq_zero_or_pos (effectiveRate d.mode rate) with hzero | hpos
    · rw [hzero] at hc
      obtain ⟨-, hc, -⟩ := hc
      cases hc
    · rw [Baud.ofRate?_eq _ _ hpos] at hc
      simp only at hc
      split at hc
      · next htol =>
        rcases hc with ⟨_, -, hc, -⟩ | ⟨_, rfl, -, -⟩
        · cases hc
        · exact ⟨d, hd, hpos, htol, rfl⟩
      · obtain ⟨-, hc, -⟩ := hc
        cases hc
  · obtain ⟨-, hc, -⟩ := hc
    cases hc

/-- **A chip works at the rate that the library reports.** For every chip, channel and rate but zero
there is a setting, and its two words hold a code of eighteen bits from which the chip reads the
divisor back: one of 8, 12, and 16 to 0x1FFFF eighths, the latter never with the codes 0 and 1, on
the second clock just for rates from 733 on. The rate of that divisor, rounded half up, is the one
that the library has found. A rate that has been set is one that the chip reads from the one request
for it, and differs from the one wanted by no more than a twentieth of the smaller of the two. -/
theorem rate_decodes :
    (∀ (chip : Chip) (channel : UInt16) (rate : Nat), channel.toNat ≤ 4 → 0 < rate →
      ∃ setting code divisor,
        Baud.Setting.ofRate? chip channel rate = some setting ∧
        code = Baud.takenCode chip setting.value setting.index ∧
        code = (Baud.search chip rate).code ∧ code < 0x40000 ∧
        (chip.isHighSpeed → setting.index.toNat &&& 0xFF = channel.toNat) ∧
        (code.testBit 17 ↔ chip.isHighSpeed ∧ 733 ≤ rate) ∧
        divisor = Baud.decode code ∧ divisor = Baud.divisorFor chip rate ∧
        (2 ≤ code &&& 0x1FFFF → Baud.fractionCode divisor = (code >>> 14) &&& 7) ∧
        (divisor = 8 ∨ divisor = 12 ∨ 16 ≤ divisor ∧ divisor < 0x20000 ∧
          2 ≤ Baud.encode divisor) ∧
        setting.actual =
          (2 * (if code.testBit 17 then 96000000 else 24000000) + divisor) / (2 * divisor)) ∧
    ∀ {history : List Turn} {s t : Session} {rate : UInt32} {events : List Event}, Run history s →
      (Action.setBaudRate rate).perform.Course s events (.ok ()) t →
        ∃ d value index, s.link = .opened d ∧
          events = [.asked (.controlOut d.handle Request.setBaudRate value index
            s.options.writeTimeout) (.ok ())] ∧
          20 * effectiveRate d.mode rate ≤
            21 * Baud.decodedRate (Baud.takenCode d.chip value index) ∧
          20 * Baud.decodedRate (Baud.takenCode d.chip value index) ≤
            21 * effectiveRate d.mode rate := by
  constructor
  · intro chip channel rate hchannel hrate
    obtain ⟨hcode, hbit, hdecode, hactual, -⟩ := Baud.search_code chip hrate
    have hindex : channel.toNat < 0x100 := by omega
    have husable := Baud.divisorFor_usable chip hrate
    refine ⟨.ofChoice chip channel (Baud.search chip rate), (Baud.search chip rate).code,
      Baud.divisorFor chip rate, Baud.ofRate?_eq chip channel hrate,
      (Baud.takenCode_ofChoice hcode hindex).symm, rfl, hcode,
      Baud.index_and_low_byte hcode hindex, ?_, hdecode.symm, rfl, ?_, ?_, ?_⟩
    · rw [hbit]
      exact Baud.takesFastClock_iff
    · rw [← hdecode]
      exact Baud.fractionCode_decode
    · rcases husable with h | h | ⟨hlow, hhigh⟩
      · exact .inl h
      · exact .inr (.inl h)
      · exact .inr (.inr ⟨hlow, hhigh, Baud.two_le_encode hlow⟩)
    · rw [← hdecode]
      exact hactual
  · intro history s t rate events run h
    obtain ⟨d, hd, hpos, htol, rfl⟩ := setBaudRate_ok h
    obtain ⟨interface, hchannel⟩ := run.exists_interface d hd
    obtain ⟨hcode, -, -, hactual, -⟩ := Baud.search_code d.chip hpos
    have hindex : d.channel.index.toNat < 0x100 := by
      have hinterface := interface.channel_index
      rw [hchannel]
      omega
    refine ⟨d, _, _, hd, rfl, ?_⟩
    rw [Baud.takenCode_ofChoice hcode hindex, ← hactual]
    exact Baud.withinTolerance_iff.mp htol

/-- A device is sent the code 26 for a rate of 115200, for which it works at 115385. -/
theorem rate_decodes_115200 : ∃ t,
    (Action.setBaudRate 115200).perform.Course ⟨.default, .opened Sample.device, none⟩
      [.asked (.controlOut Sample.handle Request.setBaudRate 26 0 5000) (.ok ())] (.ok ()) t ∧
    ∃ d value index, Link.opened Sample.device = .opened d ∧
      [Event.asked (.controlOut Sample.handle Request.setBaudRate 26 0 5000) (.ok ())] =
        [.asked (.controlOut d.handle Request.setBaudRate value index 5000) (.ok ())] ∧
      20 * effectiveRate d.mode 115200 ≤
        21 * Baud.decodedRate (Baud.takenCode d.chip value index) ∧
      20 * Baud.decodedRate (Baud.takenCode d.chip value index) ≤
        21 * effectiveRate d.mode 115200 := by
  have hset : Baud.Setting.ofRate? Sample.device.chip Sample.device.channel.index
      (effectiveRate Sample.device.mode 115200) = some ⟨115385, 26, 0⟩ := by
    decide
  have h : (Command.setBaudRate 115200).Course ⟨.default, .opened Sample.device, none⟩
      [.asked (.controlOut Sample.handle Request.setBaudRate 26 0 5000) (.ok ())] (.ok ())
      ⟨.default, .opened { Sample.device with baudRate := 115200 }, none⟩ := by
    rw [setBaudRate_course]
    simp only [hset]
    exact .inr ⟨(), rfl, rfl, rfl⟩
  exact ⟨_, h, rate_decodes.2 Sample.run_opened h⟩

end PinBridge
