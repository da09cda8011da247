import PinBridge.Proofs.Session.Addressing
import PinBridge.Proofs.Session.Refusal

/-!
# All transfers of a session are addressed

Every operation keeps to the rule of addressing: those that neither open nor close a device by one
line each (`Addressed`), and those that do because the device is held from the reply of the bus on
until it is given back (`Keeps`). So does every call (`perform_follows`). What a session has open
after some turns is what is held by their events, and its options are those that the setters have set
(`Turns.holds`); from there on all that it does goes to the interface that was claimed
(`transfers_addressed`).
-/

namespace PinBridge

namespace Command

variable {α β : Type} {held : Option (Handle × Interface)}

/-! ### Looking devices up -/

theorem findAll_addressed (vendor product : UInt16) : Addressed [] (findAll vendor product) := by
  unfold findAll
  exact .quiet_bind (.ask (fun _ _ => rfl) (fun _ => rfl) fun _ _ => trivial) fun devices =>
    .quiet_bind (.note _) fun _ => .pure _

theorem getStrings_addressed (d : Descriptor) : Addressed [] (getStrings d) :=
  .ask (fun _ _ => rfl) (fun _ => rfl) fun _ _ => trivial

theorem fits_addressed (f : Filter) (d : Descriptor) : Addressed [] (fits f d) := by
  unfold fits
  exact .ite (fun _ => .quiet_bind (getStrings_addressed d) fun _ => .pure _) fun _ => .pure _

theorem pick_addressed (f : Filter) :
    ∀ (candidates : List Descriptor) (skip : Nat), Addressed [] (pick f candidates skip)
  | [], skip => .fail _
  | d :: rest, skip => by
    unfold pick
    refine .quiet_bind (fits_addressed f d) fun fit =>
      .ite (fun _ => ?_) fun _ => pick_addressed f rest skip
    cases skip with
    | zero => exact .pure d
    | succ skip => exact pick_addressed f rest skip

theorem findDevice_addressed (f : Filter) : Addressed [] (findDevice f) := by
  unfold findDevice
  exact .quiet_bind (findAll_addressed _ _) fun candidates => pick_addressed f candidates f.index

/-! ### The serial line -/

theorem forgetPending_addressed : Addressed [] forgetPending := .update fun _ => ⟨rfl, rfl, rfl⟩

theorem reset_addressed : Addressed [] reset := by
  unfold reset
  exact .quiet_bind (controlOut_addressed (by decide) _) fun _ => forgetPending_addressed

theorem purgeReceive_addressed : Addressed [] purgeReceive := by
  unfold purgeReceive
  exact .quiet_bind (controlOut_addressed (by decide) _) fun _ => forgetPending_addressed

theorem purgeTransmit_addressed : Addressed [] purgeTransmit := controlOut_addressed (by decide) _

theorem purge_addressed : Addressed [] purge := by
  unfold purge
  exact .quiet_bind purgeReceive_addressed fun _ => purgeTransmit_addressed

/-- The setting for a rate asks for it as it should be asked for. -/
theorem asksRate_of_setting {chip : Chip} {interface : Interface} {rate : Nat}
    {setting : Baud.Setting}
    (h : Baud.Setting.ofRate? chip interface.channel.index rate = some setting) :
    AsksRate chip interface setting.value setting.index := by
  have hpos : 0 < rate := by
    refine Nat.pos_of_ne_zero ?_
    rintro rfl
    cases h
  have hindex := interface.channel_index
  have hsetting := Baud.ofRate?_eq chip interface.channel.index hpos
  refine ⟨rate, setting.actual, h, fun hchip => ?_, fun hchip other => ?_⟩
  · cases hsetting.symm.trans h
    exact Baud.index_and_low_byte (Baud.search_code chip hpos).1 (by omega) hchip
  · rw [Baud.ofRate?_eq chip other.channel.index hpos, ← h, hsetting]
    unfold Baud.Setting.ofChoice
    rw [hchip]
    rfl

theorem setBaudRate_addressed (rate : UInt32) : Addressed [] (setBaudRate rate) := by
  unfold setBaudRate
  refine .device_bind fun s held d hlink hs => ?_
  obtain ⟨interface, hheld, hchannel, hchip⟩ := hs.exists_interface hlink
  simp only
  cases hsetting : Baud.Setting.ofRate? d.chip d.channel.index (effectiveRate d.mode rate) with
  | none => exact Addressed.fail _ hs
  | some setting =>
    rw [hchannel, hchip] at hsetting
    have hasks := asksRate_of_setting hsetting
    refine .ite (fun _ => .session_bind ?_) fun _ => Addressed.fail _ hs
    refine .bind (.ask hs (fun _ => rfl) (fun _ => rfl) fun words => ?_) fun _ =>
      .update fun _ => ⟨rfl, rfl, rfl⟩
    exact ⟨rfl, interface, hheld, hasks⟩

theorem setLatency_addressed (ms : UInt8) : Addressed [] (setLatency ms) := by
  unfold setLatency
  exact .ite (fun _ => .fail _) fun _ => controlOut_addressed (by decide) _

theorem latency_addressed : Addressed [] latency := by
  unfold latency
  exact .device_bind fun s held d hlink hs =>
    .bind (controlIn_channel (by decide) 1 hlink hs) fun data => .need _

theorem refill_addressed : Addressed [] refill := by
  unfold refill
  refine .device_bind fun s held d hlink hs => ?_
  obtain ⟨interface, hheld, hchannel, -⟩ := hs.exists_interface hlink
  refine .ite (fun _ => .session_bind (.need_bind fun length => ?_)) fun _ => Addressed.pure _ hs
  refine .bind (.ask hs (fun _ => rfl) (fun _ => rfl) fun words => ?_) fun reply =>
    .update fun _ => ⟨rfl, rfl, rfl⟩
  exact ⟨rfl, interface, hheld, congrArg _ hchannel⟩

theorem readData_addressed (length : Nat) : Addressed [] (readData length) := by
  unfold readData
  exact .ite (fun _ => .pure _) fun _ => .quiet_bind refill_addressed fun _ =>
    .quiet_bind .device fun d => .quiet_bind (.update fun _ => ⟨rfl, rfl, rfl⟩) fun _ => .pure _

/-! ### The pins and the memory of the chip -/

theorem setBitMode_addressed (mask : UInt8) (mode : BitMode) :
    Addressed [] (setBitMode mask mode) := by
  unfold setBitMode
  exact .quiet_bind .device fun d => .ite
    (fun _ => .quiet_bind (controlOut_addressed (by decide) _) fun _ =>
      .quiet_bind (.update fun _ => ⟨rfl, rfl, rfl⟩) fun _ => .note _)
    fun _ => .fail _

theorem setBitModeByte_addressed (mask value : UInt8) :
    Addressed [] (setBitModeByte mask value) := by
  unfold setBitModeByte
  exact .quiet_bind .device fun _ => .quiet_bind (.ofExcept _) fun mode =>
    setBitMode_addressed mask mode

theorem requireDriven_addressed : Addressed [] requireDriven := by
  unfold requireDriven
  exact .quiet_bind .device fun d => .ite (fun _ => .fail _) fun _ => .pure _

theorem writePattern_addressed (pattern : List UInt8) : Addressed [] (writePattern pattern) := by
  unfold writePattern
  exact .quiet_bind requireDriven_addressed fun _ => bulkWrite_addressed pattern

theorem writeData_addressed (value : UInt8) : Addressed [] (writeData value) := by
  unfold writeData
  exact .quiet_bind (writePattern_addressed _) fun _ => .pure _

theorem readPins_addressed : Addressed [] readPins := by
  unfold readPins
  exact .quiet_bind requireDriven_addressed fun _ => .device_bind fun s held d hlink hs =>
    .bind (controlIn_channel (by decide) 1 hlink hs) fun data => .need _

theorem readWords_addressed : ∀ count address : Nat,
    Addressed ((List.range' address count).map UInt16.ofNat) (readWords address count)
  | 0, address => .pure _
  | count + 1, address => by
    unfold readWords
    exact (readWord_addressed _).bind fun word =>
      (readWords_addressed count (address + 1)).bind_quiet fun rest => .pure _

theorem readEeprom_addressed :
    Addressed ((List.range (Eeprom.fullSize / 2)).map UInt16.ofNat) readEeprom := by
  unfold readEeprom
  rw [List.range_eq_range']
  exact .quiet_bind .device fun d => (readWords_addressed _ _).bind_quiet fun raw =>
    .quiet_bind (.modify (fun _ => rfl) fun _ => rfl) fun _ => .note _

theorem requireNotOpen_addressed : Addressed [] requireNotOpen := by
  unfold requireNotOpen
  exact .quiet_bind .session fun s => .ite (fun _ => .fail _) fun _ => .pure _

theorem stagedPart_addressed (size : Nat) : Addressed [] (stagedPart size) := by
  unfold stagedPart
  exact .quiet_bind .session fun s => .ite (fun _ => .fail _) fun _ => .pure _

theorem readEepromWord_addressed (address : UInt16) :
    Addressed [address] (readEepromWord address) := by
  unfold readEepromWord
  exact .quiet_bind .device fun d => .ite (fun _ => .fail _) fun _ =>
    (readWord_addressed address).bind_quiet fun word => .pure _

theorem readChipId_addressed :
    Addressed [ChipId.addresses.1, ChipId.addresses.2] readChipId := by
  unfold readChipId
  refine .quiet_bind .device fun d => .ite (fun _ => ?_) fun _ => .fail _
  exact (readWord_addressed _).bind fun first => (readWord_addressed _).bind_quiet fun second =>
    .quiet_bind (.note _) fun _ => .pure _

/-! ### Opening and closing -/

/-- An operation keeps to the rule of addressing from a session and a record on. At its end the
session has open what is held, and its options are those from before. -/
def KeepsFrom (s : Session) (watch : Watch) (m : Command α) : Prop :=
  (m s).Follows (addressing s.options)
    (fun after v => v.2.Holds after.held ∧ v.2.options = s.options) watch

/-- **An operation that keeps to the rule** of addressing, and may open a device or close it. -/
def Keeps (m : Command α) : Prop := ∀ s watch, s.Holds watch.held → KeepsFrom s watch m

variable {s : Session} {watch : Watch}

theorem Addressed.keepsFrom {m : Command α} {words : List UInt16} (hm : Addressed words m)
    (hs : s.Holds held) (rest : List UInt16) : KeepsFrom s ⟨held, words ++ rest⟩ m := by
  refine (hm hs rest).mono ?_
  rintro watch v ⟨rfl, hholds, hoptions, -⟩
  exact ⟨hholds, hoptions⟩

theorem Addressed.keeps {m : Command α} (hm : Addressed [] m) : Keeps m :=
  fun _ watch hs => hm.keepsFrom hs watch.words

theorem KeepsFrom.bind {m : Command α} {f : α → Command β} (hm : KeepsFrom s watch m)
    (hf : ∀ a, Keeps (f a)) : KeepsFrom s watch (m >>= f) := by
  refine Program.Follows.bind hm ?_
  rintro after ⟨r, t⟩ ⟨hholds, hoptions⟩
  cases r with
  | error e => exact ⟨hholds, hoptions⟩
  | ok a =>
    have h := hf a t after hholds
    unfold KeepsFrom at h
    rw [hoptions] at h
    exact h

theorem Keeps.bind {m : Command α} {f : α → Command β} (hm : Keeps m) (hf : ∀ a, Keeps (f a)) :
    Keeps (m >>= f) := fun s watch hs => (hm s watch hs).bind hf

/-- What needs a session that is not open, and then nothing is held. -/
theorem requireNotOpen_keeps {f : Unit → Command α}
    (hf : ∀ s, s.isOpen = false → ∀ words, KeepsFrom s ⟨none, words⟩ (f ())) :
    Keeps (requireNotOpen >>= f) := by
  rintro s ⟨held, words⟩ hs
  unfold KeepsFrom
  rw [requireNotOpen_then]
  cases closed : s.isOpen with
  | true => exact ⟨hs, rfl⟩
  | false =>
    cases (Session.Holds.iff_of_not_open closed).mp hs
    exact hf s closed words

/-- The device that has been opened is held at once; where it cannot be set up it is given back. -/
theorem openDevice_keeps (d : Descriptor) : Keeps (openDevice d) := by
  unfold openDevice
  refine requireNotOpen_keeps fun s closed words reply => ⟨⟨rfl, rfl⟩, ?_⟩
  have hnone : s.Holds none := (Session.Holds.iff_of_not_open closed).mpr rfl
  rcases reply with e | handle
  · exact ⟨hnone, rfl⟩
  · let opened : Session := { s with link := .opened (.fresh d handle s.options.interface.channel) }
    have hopened : opened.Holds (some (handle, s.options.interface)) := ⟨_, rfl, rfl, rfl⟩
    have hsetUp : Addressed [] (reset >>= fun _ => setBaudRate initialRate) :=
      .quiet_bind reset_addressed fun _ => setBaudRate_addressed _
    have hrecovered : KeepsFrom opened ⟨some (handle, s.options.interface), words⟩
        (recover (reset >>= fun _ => setBaudRate initialRate) fun e => do
          note (.openFailed d e)
          setLink s.link
          giveBack handle
          fail e) := by
      refine Program.Follows.bind (hsetUp hopened words) ?_
      rintro ⟨held, left⟩ ⟨r, t⟩ ⟨rfl, hholds, hoptions, -⟩
      cases r with
      | ok a => exact ⟨hholds, hoptions⟩
      | error e =>
        -- what is given back is what was held, and the link is the one from before
        exact ⟨⟨_, rfl⟩, hnone.of_link rfl, hoptions⟩
    have hend : Addressed [] (forgetStaged >>= fun _ => note (.opened d
        (OpenDevice.fresh d handle s.options.interface.channel).chip
        (OpenDevice.fresh d handle s.options.interface.channel).packetSize)) :=
      .quiet_bind (.modify (fun _ => rfl) fun _ => rfl) fun _ => .note _
    exact hrecovered.bind fun _ => hend.keeps

theorem openIds_keeps (vendor product : UInt16) : Keeps (openIds vendor product) := by
  unfold openIds
  refine .bind requireNotOpen_addressed.keeps fun _ =>
    .bind (findAll_addressed _ _).keeps fun found => ?_
  cases found with
  | nil => exact (Addressed.fail _).keeps
  | cons d rest => exact openDevice_keeps d

theorem openFilter_keeps (f : Filter) : Keeps (openFilter f) := by
  unfold openFilter
  exact .bind requireNotOpen_addressed.keeps fun _ =>
    .bind (findDevice_addressed f).keeps openDevice_keeps

/-- The device is held until it is given back, after the pins have been. -/
theorem shutDown_keepsFrom {d : OpenDevice} (hlink : s.link = .opened d)
    (hs : s.Holds watch.held) : KeepsFrom s watch (shutDown d) := by
  obtain ⟨interface, hheld, hchannel, -⟩ := hs.exists_interface hlink
  have hgiven : ∃ interface, watch.held = some (d.handle, interface) := ⟨interface, hheld⟩
  unfold KeepsFrom shutDown
  split
  · exact ⟨hgiven, rfl, rfl⟩
  · -- the reset of the pins may fail, which is no obstacle
    intro reply
    refine ⟨Call.addressed_controlOut (by decide) 0 hheld (congrArg _ hchannel), ?_⟩
    rcases reply with e | a
    · exact ⟨hgiven, rfl, rfl⟩
    · exact ⟨hgiven, rfl, rfl⟩

theorem close_keeps : Keeps close := by
  rintro ⟨options, link, staged⟩ watch hs
  cases link with
  | opened d => exact shutDown_keepsFrom rfl hs
  | unopened | closed => exact ⟨hs, rfl⟩

theorem drop_keeps : Keeps drop := by
  rintro ⟨options, link, staged⟩ watch hs
  cases link with
  | opened d => exact shutDown_keepsFrom rfl hs
  | unopened | closed => exact ⟨hs, rfl⟩

theorem release_keeps : Keeps release := drop_keeps.bind fun _ => drop_keeps

end Command

/-! ### All calls -/

namespace Action

/-- The addresses of the EEPROM words that a call reads. -/
def words : Action → List UInt16
  | readEeprom => (List.range (Eeprom.fullSize / 2)).map UInt16.ofNat
  | readEepromWord address => [address]
  | readChipId => [ChipId.addresses.1, ChipId.addresses.2]
  | _ => []

/-- Whether a call sets an option. -/
def isSetter : Action → Bool
  | setInterface _ | setReadTimeout _ | setWriteTimeout _ | setReadChunk _ | setWriteChunk _ => true
  | _ => false

end Action

/-- The options after a turn: what the setters among the calls set, when they succeed. -/
def Turn.configure (options : Options) : Turn → Options
  | ⟨.setInterface interface, _, .ok _⟩ => { options with interface }
  | ⟨.setReadTimeout ms, _, .ok _⟩ => { options with readTimeout := ms }
  | ⟨.setWriteTimeout ms, _, .ok _⟩ => { options with writeTimeout := ms }
  | ⟨.setReadChunk size, _, .ok _⟩ => { options with readChunk := size }
  | ⟨.setWriteChunk size, _, .ok _⟩ => { options with writeChunk := size }
  | _ => options

theorem Turn.configure_of_not_setter {options : Options} {turn : Turn}
    (h : turn.action.isSetter = false) : turn.configure options = options := by
  obtain ⟨action, events, result⟩ := turn
  cases action with
  | setInterface | setReadTimeout | setWriteTimeout | setReadChunk | setWriteChunk => cases h
  | _ => rfl

open Command

variable {s t : Session} {history : List Turn} {held : Option (Handle × Interface)}

/-- All calls that neither open nor close a device nor set an option address what is held. -/
theorem perform_addressed {action : Action} (opening : action.isOpening = false)
    (close : action ≠ .close) (setter : action.isSetter = false) :
    Addressed action.words action.perform := by
  cases action with
  | mode | chip | ids | baudRate | packetSize => exact .map .device
  | setInterface | setReadTimeout | setWriteTimeout | setReadChunk | setWriteChunk => cases setter
  | openIds | openFilter | openDevice => cases opening
  | close => exact absurd rfl close
  | findAll vendor product => exact findAll_addressed vendor product
  | getStrings device => exact getStrings_addressed device
  | findDevice filter => exact findDevice_addressed filter
  | reset => exact reset_addressed
  | purgeReceive => exact purgeReceive_addressed
  | purgeTransmit => exact purgeTransmit_addressed
  | purge => exact purge_addressed
  | setBaudRate rate => exact setBaudRate_addressed rate
  | setLatency ms => exact setLatency_addressed ms
  | latency => exact latency_addressed
  | readData length => exact readData_addressed length
  | setBitMode mask mode => exact setBitMode_addressed mask mode
  | setBitModeByte mask value => exact setBitModeByte_addressed mask value
  | disableBitMode => exact setBitMode_addressed 0 .reset
  | writeData value => exact writeData_addressed value
  | writePattern pattern => exact writePattern_addressed pattern
  | readPins => exact readPins_addressed
  | readEeprom => exact readEeprom_addressed
  | stagedPart size => exact stagedPart_addressed size
  | readEepromWord address => exact readEepromWord_addressed address
  | readChipId => exact readChipId_addressed

/-- To open or to close a device keeps to the rule. -/
theorem perform_keeps {action : Action} (h : action.isOpening ∨ action = .close) :
    Keeps action.perform := by
  cases action with
  | openIds vendor product => exact openIds_keeps vendor product
  | openFilter filter => exact openFilter_keeps filter
  | openDevice device => exact openDevice_keeps device
  | close => exact close_keeps
  | _ => simp [Action.isOpening] at h

/-- All calls but the setters keep to the rule, from the words that they read on. -/
theorem perform_keepsFrom {action : Action} (setter : action.isSetter = false)
    (hs : s.Holds held) : KeepsFrom s ⟨held, action.words⟩ action.perform := by
  by_cases h : action.isOpening ∨ action = .close
  · exact perform_keeps h s _ hs
  · obtain ⟨opening, close⟩ := not_or.mp h
    have hfrom := (perform_addressed (Bool.eq_false_iff.mpr opening) close setter).keepsFrom hs []
    rwa [List.append_nil] at hfrom

/-- A setter is over at once: it has set what it is for, or it has failed. -/
theorem perform_setter {action : Action} (setter : action.isSetter) (s : Session) :
    ∃ r t, action.perform s = .done (r, t) ∧ t.link = s.link ∧
      ∀ events, t.options = (Turn.mk action events r).configure s.options := by
  cases action with
  | setReadTimeout | setWriteTimeout => exact ⟨_, _, rfl, rfl, fun _ => rfl⟩
  | setInterface interface =>
    change ∃ r t, (Command.setInterface interface) s = _ ∧ _
    unfold Command.setInterface
    rw [requireNotOpen_then]
    split
    · exact ⟨_, _, rfl, rfl, fun _ => rfl⟩
    · exact ⟨_, _, rfl, rfl, fun _ => rfl⟩
  | setReadChunk size =>
    change ∃ r t, (Command.setReadChunk size) s = _ ∧ _
    unfold Command.setReadChunk
    split
    · exact ⟨_, _, rfl, rfl, fun _ => rfl⟩
    · exact ⟨_, _, rfl, rfl, fun _ => rfl⟩
  | setWriteChunk size =>
    change ∃ r t, (Command.setWriteChunk size) s = _ ∧ _
    unfold Command.setWriteChunk
    split
    · exact ⟨_, _, rfl, rfl, fun _ => rfl⟩
    · exact ⟨_, _, rfl, rfl, fun _ => rfl⟩
  | _ => cases setter

/-- **A call follows the rule**, and the options are those that it has set, if it sets any. -/
theorem perform_follows (hs : s.Holds held) (action : Action) :
    (action.perform s).Follows (addressing s.options)
      (fun watch v => v.2.Holds watch.held ∧
        ∀ events, v.2.options = (Turn.mk action events v.1).configure s.options)
      ⟨held, action.words⟩ := by
  cases setter : action.isSetter with
  | true =>
    obtain ⟨r, t, hperform, hlink, hoptions⟩ := perform_setter setter s
    rw [hperform]
    exact ⟨hs.of_link hlink, hoptions⟩
  | false =>
    refine Program.Follows.mono (perform_keepsFrom setter hs) fun watch v hv =>
      ⟨hv.1, fun events => ?_⟩
    have hconfigure : (Turn.mk action events v.1).configure s.options = s.options :=
      Turn.configure_of_not_setter setter
    rw [hconfigure]
    exact hv.2

/-! ### All runs -/

/-- **A stretch of turns** that takes one session to another. With a session that has just been made
to begin with it is a run, but one that does not forget the options at its start. -/
inductive Turns (s : Session) : List Turn → Session → Prop
  | nil : Turns s [] s
  | snoc {history : List Turn} {t u : Session} {action : Action} {events : List Event}
      {result : Except Error action.Result} (turns : Turns s history t)
      (course : action.perform.Course t events result u) :
      Turns s (history ++ [⟨action, events, result⟩]) u

/-- **What all turns keep**: the session has open what is held by the events, and its options are
those that the setters have set. -/
theorem Turns.holds (turns : Turns s history t) (start : s.Holds none) :
    t.Holds (claimed (history.flatMap Turn.events)) ∧
      t.options = history.foldl Turn.configure s.options := by
  induction turns with
  | nil => exact ⟨start, rfl⟩
  | @snoc history t u action events result _ course ih =>
    obtain ⟨hholds, hoptions⟩ := ih
    obtain ⟨hholds', hoptions'⟩ := (perform_follows hholds action).of_course course
    rw [addressing_after_held] at hholds'
    constructor
    · rw [List.flatMap_append, List.flatMap_singleton]
      unfold claimed at hholds' ⊢
      rw [List.foldl_append]
      exact hholds'
    · rw [List.foldl_append, ← hoptions]
      exact hoptions' events

/-- **Every transfer goes to the interface that was claimed.** A session is made and takes some turns.
Its options are then those that it was made with, changed by the setters that have succeeded. And in
any call that it takes next, or when it is dropped or released, on every bus: the interface of the
options is claimed for a device that is opened, and every transfer until the device is given back
goes to that device, under the numbers of the interface that was claimed for it, or for a word of the
EEPROM under the address of that word, and with the timeout that the options have for its direction.
-/
theorem transfers_addressed {options : Options} (made : Session.new options = .ok s)
    (turns : Turns s history t) :
    t.options = history.foldl Turn.configure options ∧
    (∀ action : Action, (action.perform t).Respects (addressing t.options)
      ⟨claimed (history.flatMap Turn.events), action.words⟩) ∧
    ∀ ending ∈ [Command.drop, Command.release], (ending t).Respects (addressing t.options)
      ⟨claimed (history.flatMap Turn.events), []⟩ := by
  cases Session.eq_of_new made
  obtain ⟨hholds, hoptions⟩ := turns.holds rfl
  refine ⟨hoptions, fun action => (perform_follows hholds action).respects, ?_⟩
  intro ending hending
  simp only [List.mem_cons, List.not_mem_nil, or_false] at hending
  rcases hending with rfl | rfl
  · exact (drop_keeps t _ hholds).respects
  · exact (release_keeps t _ hholds).respects

namespace Sample

/-- A device with a chip of two channels, as enumeration lists it. -/
def dual : Descriptor := ⟨vendorId, ProductId.dual, "1", 2, 0x0700, .none⟩

/-- The device, open. -/
def dualHandle : Handle := ⟨2, 0x0700, true, some 512⟩

/-- What passes when its second channel is opened. -/
def dualOpening : List Event :=
  [.asked (.openDevice dual .b) (.ok dualHandle),
    .asked (.controlOut dualHandle Request.reset Request.everything 2 5000) (.ok ()),
    .asked (.controlOut dualHandle Request.setBaudRate 0x04E2 0x0202 5000) (.ok ())]

/-- The device as a session has it then. -/
def dualDevice : OpenDevice :=
  { OpenDevice.fresh dual dualHandle Interface.b.channel with baudRate := initialRate }

theorem dualRate :
    Baud.Setting.ofRate? .ft2232h 2 initialRate.toNat = some ⟨9600, 0x04E2, 0x0202⟩ := by
  decide

/-- The turns of a session that opens the second channel, tries to select the third one, and then
sets how long a write may take. -/
theorem dualTurns : Turns ⟨.default, .unopened, none⟩
    [⟨.setInterface .b, [], .ok ()⟩, ⟨.openDevice dual, dualOpening, .ok ()⟩,
      ⟨.setInterface .c, [], .error .alreadyOpen⟩, ⟨.setWriteTimeout 7, [], .ok ()⟩]
    ⟨⟨.b, 5000, 7, 4096, 4096⟩, .opened dualDevice, none⟩ := by
  have selected : (Action.setInterface .b).perform.Course ⟨.default, .unopened, none⟩ []
      (.ok ()) ⟨⟨.b, 5000, 5000, 4096, 4096⟩, .unopened, none⟩ := .done _
  have opened : (Action.openDevice dual).perform.Course
      ⟨⟨.b, 5000, 5000, 4096, 4096⟩, .unopened, none⟩ dualOpening (.ok ())
      ⟨⟨.b, 5000, 5000, 4096, 4096⟩, .opened dualDevice, none⟩ :=
    openDevice_course.mpr (@Opening.opened dual ⟨⟨.b, 5000, 5000, 4096, 4096⟩, .unopened, none⟩
      dualHandle _ rfl dualRate)
  have refused : (Action.setInterface .c).perform.Course
      ⟨⟨.b, 5000, 5000, 4096, 4096⟩, .opened dualDevice, none⟩ [] (.error .alreadyOpen)
      ⟨⟨.b, 5000, 5000, 4096, 4096⟩, .opened dualDevice, none⟩ := .done _
  have hurried : (Action.setWriteTimeout 7).perform.Course
      ⟨⟨.b, 5000, 5000, 4096, 4096⟩, .opened dualDevice, none⟩ [] (.ok ())
      ⟨⟨.b, 5000, 7, 4096, 4096⟩, .opened dualDevice, none⟩ := .done _
  exact (((Turns.nil.snoc selected).snoc opened).snoc refused).snoc hurried

end Sample

/-- Its next purge goes to the second channel, and may take as long as was set last. -/
theorem transfers_addressed_purgeTransmit :
    (Call.controlOut Sample.dualHandle Request.reset Request.transmitBuffer 2 7).Addressed
      ⟨.b, 5000, 7, 4096, 4096⟩ ⟨some (Sample.dualHandle, .b), []⟩ := by
  have made : Session.new .default = .ok ⟨.default, .unopened, none⟩ := rfl
  exact (transfers_addressed made Sample.dualTurns).2.1 .purgeTransmit Sample.granting () [] []
    (.asked (.controlOut Sample.dualHandle Request.reset Request.transmitBuffer 2 7) (.ok ())) rfl

end PinBridge
