import PinBridge.Proofs.Session.Change

/-!
# Opening a device

`Opening` lists all that can come of the call that opens a device, and `openDevice_course` says that
it does: the call makes up to three calls on the bus, and nothing else can fail it. That the rate of
a fresh device can be set is no matter of luck, since every chip has it (`exists_initialSetting`).
-/

namespace PinBridge

open Command

variable {s t : Session} {events : List Event}

/-- **How opening a device goes.** The device is opened, reset, and set to its first rate; where one
of the two requests fails it is given back, and the session is the one before. -/
inductive Opening (device : Descriptor) (s : Session) :
    List Event → Except Error Unit → Session → Prop
  /-- A device is open already. -/
  | refused (isOpen : s.isOpen) : Opening device s [] (.error .alreadyOpen) s
  /-- The bus does not open the device. -/
  | unopened {e : Error} (closed : s.isOpen = false) :
      Opening device s [.asked (.openDevice device s.options.interface) (.error e)] (.error e) s
  /-- The device is not reset. -/
  | unreset {handle : Handle} {e : Error} (closed : s.isOpen = false) :
      Opening device s
        [.asked (.openDevice device s.options.interface) (.ok handle),
          .asked (.controlOut handle Request.reset Request.everything
            s.options.interface.channel.index s.options.writeTimeout) (.error e),
          .released handle]
        (.error e) s
  /-- The device is reset, and its rate is not set. -/
  | unset {handle : Handle} {setting : Baud.Setting} {e : Error} (closed : s.isOpen = false)
      (rate : Baud.Setting.ofRate? (Chip.ofRelease handle.release handle.hasSerial)
        s.options.interface.channel.index initialRate.toNat = some setting) :
      Opening device s
        [.asked (.openDevice device s.options.interface) (.ok handle),
          .asked (.controlOut handle Request.reset Request.everything
            s.options.interface.channel.index s.options.writeTimeout) (.ok ()),
          .asked (.controlOut handle Request.setBaudRate setting.value setting.index
            s.options.writeTimeout) (.error e),
          .released handle]
        (.error e) s
  /-- The device is open. -/
  | opened {handle : Handle} {setting : Baud.Setting} (closed : s.isOpen = false)
      (rate : Baud.Setting.ofRate? (Chip.ofRelease handle.release handle.hasSerial)
        s.options.interface.channel.index initialRate.toNat = some setting) :
      Opening device s
        [.asked (.openDevice device s.options.interface) (.ok handle),
          .asked (.controlOut handle Request.reset Request.everything
            s.options.interface.channel.index s.options.writeTimeout) (.ok ()),
          .asked (.controlOut handle Request.setBaudRate setting.value setting.index
            s.options.writeTimeout) (.ok ())]
        (.ok ())
        { s with
          link := .opened { OpenDevice.fresh device handle s.options.interface.channel with
            baudRate := initialRate }
          staged := none }

/-- Every chip has the rate that a device starts with, near enough. -/
theorem exists_initialSetting (chip : Chip) (channel : UInt16) :
    ∃ setting, Baud.Setting.ofRate? chip channel initialRate.toNat = some setting ∧
      Baud.withinTolerance initialRate.toNat setting.actual := by
  have hactual : (Baud.search chip initialRate.toNat).actual ≠ 0 ∧
      Baud.withinTolerance initialRate.toNat (Baud.search chip initialRate.toNat).actual := by
    cases chip <;> decide
  refine ⟨.ofChoice chip channel (Baud.search chip initialRate.toNat), ?_, hactual.2⟩
  unfold Baud.Setting.ofRate?
  rw [if_neg (by decide)]
  exact if_neg hactual.1

/-- **Setting a fresh device up**: it is reset, and then its rate is set. -/
theorem setUp_course {d : OpenDevice} {rate : UInt32} {setting : Baud.Setting}
    {r : Except Error Unit} (hs : s.link = .opened d) (hd : d.pending = [])
    (hset : Baud.Setting.ofRate? d.chip d.channel.index (effectiveRate d.mode rate) = some setting)
    (htol : Baud.withinTolerance (effectiveRate d.mode rate) setting.actual) :
    (reset >>= fun _ => setBaudRate rate).Course s events r t ↔
      (∃ e, events = [.asked (.controlOut d.handle Request.reset Request.everything d.channel.index
          s.options.writeTimeout) (.error e)] ∧ r = .error e ∧ t = s) ∨
        ∃ rest, events = .asked (.controlOut d.handle Request.reset Request.everything
            d.channel.index s.options.writeTimeout) (.ok ()) :: rest ∧
          Requested s d { d with baudRate := rate } Request.setBaudRate setting.value setting.index
            rest r t := by
  -- The device has nothing at hand, so that the reset changes nothing.
  have hsame : { s with link := .opened { d with pending := [] } } = s := by
    rw [← hd, ← hs]
  have hbaud : ∀ rest, (setBaudRate rate).Course s rest r t ↔
      Requested s d { d with baudRate := rate } Request.setBaudRate setting.value setting.index
        rest r t := by
    intro rest
    rw [setBaudRate_course]
    simp only [hs, hset]
    rw [if_pos htol]
  unfold reset controlOut forgetPending
  simp only [Command.bind_assoc, device_bind, hs, session_bind, ask_bind, update_bind, hsame, hbaud]
  refine or_congr Iff.rfl ⟨?_, ?_⟩
  · rintro ⟨a, rest, h, rfl⟩
    exact ⟨rest, rfl, h⟩
  · rintro ⟨rest, rfl, h⟩
    exact ⟨(), rest, h, rfl⟩

/-- A device that has just been opened is set up in this way; its chip has the rate. -/
theorem setUp_fresh_course (s : Session) (device : Descriptor) (handle : Handle) :
    ∃ setting, Baud.Setting.ofRate? (Chip.ofRelease handle.release handle.hasSerial)
        s.options.interface.channel.index initialRate.toNat = some setting ∧
      ∀ {t : Session} {events : List Event} {r : Except Error Unit},
        (reset >>= fun _ => setBaudRate initialRate).Course
            { s with link := .opened (.fresh device handle s.options.interface.channel) }
            events r t ↔
          (∃ e, events = [.asked (.controlOut handle Request.reset Request.everything
              s.options.interface.channel.index s.options.writeTimeout) (.error e)] ∧
            r = .error e ∧
            t = { s with link := .opened (.fresh device handle s.options.interface.channel) }) ∨
          ∃ rest, events = .asked (.controlOut handle Request.reset Request.everything
              s.options.interface.channel.index s.options.writeTimeout) (.ok ()) :: rest ∧
            Requested
              { s with link := .opened (.fresh device handle s.options.interface.channel) }
              (.fresh device handle s.options.interface.channel)
              { OpenDevice.fresh device handle s.options.interface.channel with
                baudRate := initialRate }
              Request.setBaudRate setting.value setting.index rest r t := by
  obtain ⟨setting, hset, htol⟩ := exists_initialSetting
    (Chip.ofRelease handle.release handle.hasSerial) s.options.interface.channel.index
  refine ⟨setting, hset, fun {t events r} => ?_⟩
  exact setUp_course (d := .fresh device handle s.options.interface.channel) rfl rfl hset htol

/-- An operation that gives the handle back where it fails, and sets the link. -/
theorem recover_giveBack_course {m : Command Unit} {failed : Error → Note} {link : Link}
    {handle : Handle} {r : Except Error Unit} :
    (recover m fun e => note (failed e) >>= fun _ => setLink link >>= fun _ =>
      giveBack handle >>= fun _ => fail e).Course s events r t ↔
      (m.Course s events (.ok ()) t ∧ r = .ok ()) ∨
        ∃ e first s₁, m.Course s first (.error e) s₁ ∧ events = first ++ [.released handle] ∧
          r = .error e ∧ t = { s₁ with link } := by
  rw [course_recover]
  unfold setLink
  simp only [note_bind, modify_bind, giveBack_bind, course_fail]
  constructor
  · rintro (⟨_, h, rfl⟩ | ⟨e, first, s₁, second, h, ⟨rest, rfl, rfl, rfl, rfl⟩, rfl⟩)
    · exact .inl ⟨h, rfl⟩
    · exact .inr ⟨e, first, s₁, h, rfl, rfl, rfl⟩
  · rintro (⟨h, rfl⟩ | ⟨e, first, s₁, h, rfl, rfl, rfl⟩)
    · exact .inl ⟨(), h, rfl⟩
    · exact .inr ⟨e, first, s₁, _, h, ⟨[], rfl, rfl, rfl, rfl⟩, rfl⟩

/-- Opening goes in no other way. -/
theorem Opening.of_course {device : Descriptor} {r : Except Error Unit}
    (h : (openDevice device).Course s events r t) : Opening device s events r t := by
  unfold openDevice setLink forgetStaged at h
  rw [requireNotOpen_bind] at h
  split at h
  · next isOpen =>
    obtain ⟨rfl, rfl, rfl⟩ := h
    exact .refused isOpen
  · next hopen =>
    have closed : s.isOpen = false := by simpa using hopen
    rw [session_bind, ask_bind] at h
    rcases h with ⟨e, rfl, rfl, rfl⟩ | ⟨handle, rest, h, rfl⟩
    · exact .unopened closed
    · obtain ⟨setting, hset, hsetUp⟩ := setUp_fresh_course s device handle
      rw [modify_bind] at h
      rcases course_bind.mp h with ⟨e, h₁, rfl⟩ | ⟨_, first, s₁, second, h₁, h₂, rfl⟩
      · obtain ⟨-, hr⟩ | ⟨e', first, s₁, h₁, rfl, he, rfl⟩ := recover_giveBack_course.mp h₁
        · cases hr
        · cases he
          rcases hsetUp.mp h₁ with ⟨_, rfl, he, rfl⟩ | ⟨_, rfl, ⟨_, rfl, he, rfl⟩ | ⟨_, -, he, -⟩⟩
          · cases he
            exact .unreset closed
          · cases he
            exact .unset closed hset
          · cases he
      · obtain ⟨h₁, -⟩ | ⟨e', first, s₁, -, -, he, -⟩ := recover_giveBack_course.mp h₁
        · rcases hsetUp.mp h₁ with ⟨_, -, he, -⟩ | ⟨_, rfl, ⟨_, -, he, -⟩ | ⟨_, rfl, -, rfl⟩⟩
          · cases he
          · cases he
          · rw [modify_bind, course_note] at h₂
            obtain ⟨rfl, rfl, rfl⟩ := h₂
            exact .opened closed hset
        · cases he

/-- And it can go in each of these ways. -/
theorem Opening.course {device : Descriptor} {r : Except Error Unit}
    (h : Opening device s events r t) : (openDevice device).Course s events r t := by
  unfold openDevice setLink forgetStaged
  rw [requireNotOpen_bind]
  cases h with
  | refused isOpen =>
    rw [if_pos isOpen]
    exact ⟨rfl, rfl, rfl⟩
  | unopened closed =>
    rw [if_neg (Bool.not_eq_true _ ▸ closed), session_bind, ask_bind]
    exact .inl ⟨_, rfl, rfl, rfl⟩
  | @unreset handle e closed =>
    obtain ⟨setting, hset, hsetUp⟩ := setUp_fresh_course s device handle
    rw [if_neg (Bool.not_eq_true _ ▸ closed), session_bind, ask_bind]
    refine .inr ⟨handle, _, ?_, rfl⟩
    rw [modify_bind]
    refine course_bind.mpr (.inl ⟨e, recover_giveBack_course.mpr (.inr ?_), rfl⟩)
    exact ⟨e, _, _, hsetUp.mpr (.inl ⟨e, rfl, rfl, rfl⟩), rfl, rfl, rfl⟩
  | @unset handle setting e closed hset =>
    obtain ⟨_, hset', hsetUp⟩ := setUp_fresh_course s device handle
    cases hset.symm.trans hset'
    rw [if_neg (Bool.not_eq_true _ ▸ closed), session_bind, ask_bind]
    refine .inr ⟨handle, _, ?_, rfl⟩
    rw [modify_bind]
    refine course_bind.mpr (.inl ⟨e, recover_giveBack_course.mpr (.inr ?_), rfl⟩)
    exact ⟨e, _, _, hsetUp.mpr (.inr ⟨_, rfl, .inl ⟨e, rfl, rfl, rfl⟩⟩), rfl, rfl, rfl⟩
  | @opened handle setting closed hset =>
    obtain ⟨_, hset', hsetUp⟩ := setUp_fresh_course s device handle
    cases hset.symm.trans hset'
    rw [if_neg (Bool.not_eq_true _ ▸ closed), session_bind, ask_bind]
    refine .inr ⟨handle, _, ?_, rfl⟩
    rw [modify_bind]
    have h := (hsetUp (r := .ok ())).mpr (.inr ⟨_, rfl, .inr ⟨(), rfl, rfl, rfl⟩⟩)
    exact course_bind.mpr (.inr ⟨(), [_, _], _, [], recover_giveBack_course.mpr (.inl ⟨h, rfl⟩),
      course_note.mpr ⟨rfl, rfl, rfl⟩, rfl⟩)

/-- **The courses of opening a device**: nothing but the bus can fail it. -/
theorem openDevice_course {device : Descriptor} {r : Except Error Unit} :
    (openDevice device).Course s events r t ↔ Opening device s events r t :=
  ⟨Opening.of_course, Opening.course⟩

/-! ### A device to open -/

namespace Sample

/-- A device with a chip of one channel, as enumeration lists it. -/
def descriptor : Descriptor := ⟨vendorId, ProductId.single, "1", 1, 0x0600, .none⟩

/-- The device, open. -/
def handle : Handle := ⟨1, 0x0600, true, some 64⟩

/-- What passes when the device is opened with the default options and answers for all but its rate,
for which it has a reply. -/
def opening (reply : Except Error Unit) : List Event :=
  [.asked (.openDevice descriptor .any) (.ok handle),
    .asked (.controlOut handle Request.reset Request.everything 1 5000) (.ok ()),
    .asked (.controlOut handle Request.setBaudRate 0x4138 0 5000) reply]

/-- The device as a session has it then. -/
def device : OpenDevice :=
  { OpenDevice.fresh descriptor handle Interface.any.channel with baudRate := initialRate }

theorem rate : Baud.Setting.ofRate? .ft232r 1 initialRate.toNat = some ⟨9600, 0x4138, 0⟩ := by
  decide

theorem opens : Opening descriptor ⟨.default, .unopened, none⟩ (opening (.ok ())) (.ok ())
    ⟨.default, .opened device, none⟩ :=
  @Opening.opened descriptor ⟨.default, .unopened, none⟩ handle _ rfl rate

theorem opens_not : Opening descriptor ⟨.default, .closed, none⟩
    (opening (.error .timeout) ++ [.released handle]) (.error .timeout)
    ⟨.default, .closed, none⟩ :=
  @Opening.unset descriptor ⟨.default, .closed, none⟩ handle _ .timeout rfl rate

end Sample

end PinBridge
