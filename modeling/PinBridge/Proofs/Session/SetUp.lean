import PinBridge.Proofs.Session.Footprint
import PinBridge.Proofs.Session.Opening
import PinBridge.Proofs.Session.Orderly

/-!
# What can fail the opening of a device

To open a device takes three calls on the bus (`openingCalls`), and the third one needs a setting
for the first rate. Every chip has one that is near enough, so a session that is not open refuses
nothing by itself: the ways in which opening goes differ only in which of the three calls fails.

* `Opening.calls_prefix` : the calls are the first of the three.
* `Opening.ok_iff` : the device is open just where none of them has failed.
* `Opening.of_ok` : what has passed then, and the session that has the device open.
* `opening_fails_on_bus_only` : the three together, on whatever bus.
-/

namespace PinBridge

/-- **The calls that open a device**: it is taken, its channel is reset, and its rate is set. -/
def openingCalls (device : Descriptor) (options : Options) (handle : Handle)
    (setting : Baud.Setting) : List Call :=
  [.openDevice device options.interface,
    .controlOut handle Request.reset Request.everything options.interface.channel.index
      options.writeTimeout,
    .controlOut handle Request.setBaudRate setting.value setting.index options.writeTimeout]

namespace Opening

variable {device : Descriptor} {s t : Session} {events : List Event} {r : Except Error Unit}

/-- **A session that is not open** makes the first calls of the three, all to the handle that it has
been given, with any setting that this handle has for the first rate. -/
theorem calls_prefix (h : Opening device s events r t) (closed : s.isOpen = false) :
    ∃ handle, (∀ other, .asked (.openDevice device s.options.interface) (.ok other) ∈ events →
        other = handle) ∧
      ∀ setting, Baud.Setting.ofRate? (Chip.ofRelease handle.release handle.hasSerial)
          s.options.interface.channel.index initialRate.toNat = some setting →
        events.filterMap Event.call? <+: openingCalls device s.options handle setting := by
  cases h with
  | refused isOpen => cases closed.symm.trans isOpen
  | unopened => exact ⟨⟨0, 0, false, none⟩, by simp, fun setting _ => ⟨[_, _], rfl⟩⟩
  | @unreset handle => exact ⟨handle, by simp, fun setting _ => ⟨[_], rfl⟩⟩
  | @unset handle _ _ _ rate =>
    refine ⟨handle, by simp, fun setting hset => ?_⟩
    cases rate.symm.trans hset
    exact ⟨[], rfl⟩
  | @opened handle _ _ rate =>
    refine ⟨handle, by simp, fun setting hset => ?_⟩
    cases rate.symm.trans hset
    exact ⟨[], rfl⟩

/-- **The device is open** just where no call has failed. -/
theorem ok_iff (h : Opening device s events r t) (closed : s.isOpen = false) :
    r = .ok () ↔ ∀ event ∈ events, event.failure? = none := by
  cases h with
  | refused isOpen => cases closed.symm.trans isOpen
  | unopened => simp [Event.failure?]
  | unreset => simp [Event.failure?]
  | unset => simp [Event.failure?]
  | opened => simp [Event.failure?]

/-- **What has passed then**, and the session that has the device open, whatever it was before. -/
theorem of_ok (h : Opening device s events (.ok ()) t) : ∃ handle setting,
    Baud.Setting.ofRate? (Chip.ofRelease handle.release handle.hasSerial)
      s.options.interface.channel.index initialRate.toNat = some setting ∧
    events = [.asked (.openDevice device s.options.interface) (.ok handle),
      .asked (.controlOut handle Request.reset Request.everything
        s.options.interface.channel.index s.options.writeTimeout) (.ok ()),
      .asked (.controlOut handle Request.setBaudRate setting.value setting.index
        s.options.writeTimeout) (.ok ())] ∧
    t = ⟨s.options, .opened { OpenDevice.fresh device handle s.options.interface.channel with
      baudRate := initialRate }, none⟩ := by
  cases h with
  | opened closed rate => exact ⟨_, _, rate, rfl, rfl⟩

end Opening

/-- **Nothing but the bus fails the opening of a device.** On a bus that answers every call, a
session that is not open makes the first of three calls: it takes the device, resets the channel of
its interface, and sets the rate 9600 as the chip of the handle has it, near enough whatever handle
it is. A call that fails is the last one, and its error the result. The device is open just where
none has failed. Then all three have been made, and of the session only the options are as before:
the pins are not driven, the rate is 9600, nothing is at hand and nothing staged, the IDs are those
of the descriptor, the chip is that of the handle, and so is the packet size, or else the chip's. -/
theorem opening_fails_on_bus_only {σ : Type} {bus : Bus σ} (answers : bus.Answers fun _ => True)
    {s : Session} (closed : s.isOpen = false) (device : Descriptor) (world : σ) :
    ∃ events r t after handle setting,
      ((Action.openDevice device).perform s).play bus world = (events, some (r, t), after) ∧
      (∀ other, .asked (.openDevice device s.options.interface) (.ok other) ∈ events →
        other = handle) ∧
      Baud.Setting.ofRate? (Chip.ofRelease handle.release handle.hasSerial)
        s.options.interface.channel.index 9600 = some setting ∧
      Baud.withinTolerance 9600 setting.actual ∧
      events.filterMap Event.call? <+: openingCalls device s.options handle setting ∧
      (∀ before event rest e, events = before ++ event :: rest → event.failure? = some e →
        r = .error e ∧ ∀ later ∈ rest, later.call? = none) ∧
      (r = .ok () ↔ ∀ event ∈ events, event.failure? = none) ∧
      (r = .ok () → events.filterMap Event.call? = openingCalls device s.options handle setting ∧
        t.status = .isOpen ∧ t.options = s.options ∧ t.staged = none ∧
        t.device = .ok
          { handle
            chip := Chip.ofRelease handle.release handle.hasSerial
            channel := s.options.interface.channel
            vendor := device.vendor
            product := device.product
            packetSize := handle.packetSize.getD
              (Chip.ofRelease handle.release handle.hasSerial).packetSize
            mode := .normal
            baudRate := 9600
            pending := [] }) := by
  obtain ⟨events, ⟨r, t⟩, after, hplay, -, -⟩ :=
    (perform_within (.openDevice device) s).completes answers world
  have hopening : Opening device s events r t :=
    openDevice_course.mp (Program.course_of_play hplay)
  obtain ⟨handle, hhandle, hcalls⟩ := hopening.calls_prefix closed
  obtain ⟨setting, hset, hnear⟩ := exists_initialSetting
    (Chip.ofRelease handle.release handle.hasSerial) s.options.interface.channel.index
  refine ⟨events, r, t, after, handle, setting, hplay, hhandle, hset, hnear, hcalls setting hset,
    ?_, hopening.ok_iff closed, ?_⟩
  · rintro before event rest e rfl failed
    obtain ⟨hrest, _, hvalue, hfails⟩ :=
      (perform_prompt (by simp) s).of_play (congrArg Prod.fst hplay) failed
    rw [hplay] at hvalue
    cases hvalue
    exact ⟨hfails, hrest⟩
  · rintro rfl
    obtain ⟨other, found, hfound, rfl, rfl⟩ := hopening.of_ok
    cases hhandle other (by simp)
    cases hset.symm.trans hfound
    exact ⟨rfl, rfl, rfl, rfl, rfl⟩

namespace Sample

/-- A chip of two channels that does not tell its packet size. -/
def unsized : Handle := ⟨7, 0x0700, false, none⟩

/-- A bus that hands out this chip and takes whatever it is sent. -/
def obliging : Bus Unit := .fixed fun
  | .openDevice .. => .ok unsized
  | .controlOut .. => .ok ()
  | _ => .error .timeout

/-- A session that has been closed, with the second channel chosen. -/
def secondChosen : Session := ⟨{ Options.default with interface := .b }, .closed, none⟩

end Sample

/-- The second channel of the chip is opened, with the chip's packets. -/
theorem opening_fails_on_bus_only_second : Sample.obliging.Answers (fun _ => True) ∧
    Sample.secondChosen.isOpen = false ∧ ∃ events t,
      ((Action.openDevice Sample.descriptor).perform Sample.secondChosen).play Sample.obliging () =
        (events, some (.ok (), t), ()) ∧
      events.filterMap Event.call? <+:
        [.openDevice Sample.descriptor .b, .controlOut Sample.unsized 0 0 2 5000,
          .controlOut Sample.unsized 3 0x04E2 0x0202 5000] ∧
      t.device = .ok ⟨Sample.unsized, .ft2232h, vendorId, ProductId.single, Interface.b.channel,
        512, .normal, 9600, []⟩ := by
  have answers : Sample.obliging.Answers fun _ => True := Bus.fixed_answers fun _ => trivial
  have closed : Sample.secondChosen.isOpen = false := rfl
  obtain ⟨events, r, t, after, handle, setting, hplay, hhandle, hset, -, hcalls, -, -, hopen⟩ :=
    opening_fails_on_bus_only answers closed Sample.descriptor ()
  have hevents : (((Action.openDevice Sample.descriptor).perform Sample.secondChosen).play
      Sample.obliging ()).1 = events := congrArg Prod.fst hplay
  have htaken : .asked (.openDevice Sample.descriptor .b) (.ok Sample.unsized) ∈ events :=
    hevents ▸ List.mem_cons_self
  cases hhandle _ htaken
  have hrate : Baud.Setting.ofRate? .ft2232h 2 9600 = some ⟨9600, 0x04E2, 0x0202⟩ := by decide
  cases hrate.symm.trans hset
  have hdone : some (r, t) = some (Except.ok (), _) := (congrArg (·.2.1) hplay).symm.trans rfl
  obtain rfl : r = .ok () := congrArg Prod.fst (Option.some.inj hdone)
  exact ⟨answers, closed, events, t, hplay, hcalls, (hopen rfl).2.2.2.2⟩

end PinBridge
