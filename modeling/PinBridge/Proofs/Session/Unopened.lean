import PinBridge.Session.Action

/-!
# Calls for a device that is not open

Most calls are for the open device and begin by asking the session for it. Where there is none such
a call is over before it has reached the bus (`Gated`), and since nothing that comes later can
change this, the first step of each operation settles the operation. `device_call_unopened` has all
calls for a device: two of them look at their argument first, and for one value of it they do not
ask for the device at all.
-/

namespace PinBridge

theorem Session.device_of_not_open {s : Session} (closed : s.isOpen = false) :
    s.device = .error .notOpen := by
  unfold Session.isOpen Session.status at closed
  unfold Session.device
  cases hs : s.link with
  | opened d =>
    rw [hs] at closed
    cases closed
  | unopened => rfl
  | closed => rfl

namespace Command

variable {α β : Type}

/-- **A gated operation**: in a session that is not open it makes no call, and fails with that. -/
def Gated (m : Command α) : Prop :=
  ∀ ⦃s : Session⦄, s.isOpen = false → m s = .done (.error .notOpen, s)

namespace Gated

theorem device : Gated device := by
  intro s closed
  unfold Command.device
  rw [Session.device_of_not_open closed]

/-- What follows a gated operation is gated with it. -/
theorem bind {m : Command α} (hm : Gated m) (f : α → Command β) : Gated (m >>= f) := by
  intro s closed
  change (m s).bind _ = _
  rw [hm closed]
  rfl

theorem map {m : Command α} (hm : Gated m) (f : α → β) : Gated (f <$> m) := hm.bind _

end Gated

/-! ### Transfers -/

theorem controlOut_gated (request : UInt8) (value : UInt16) : Gated (controlOut request value) := by
  unfold controlOut
  exact Gated.device.bind _

theorem controlIn_gated (request : UInt8) (index length : UInt16) :
    Gated (controlIn request index length) := by
  unfold controlIn
  exact Gated.device.bind _

/-! ### Operations -/

theorem close_gated : Gated close := by
  unfold close
  exact Gated.device.bind _

theorem reset_gated : Gated reset := by
  unfold reset
  exact (controlOut_gated _ _).bind _

theorem purgeReceive_gated : Gated purgeReceive := by
  unfold purgeReceive
  exact (controlOut_gated _ _).bind _

theorem purgeTransmit_gated : Gated purgeTransmit := controlOut_gated _ _

theorem purge_gated : Gated purge := by
  unfold purge
  exact purgeReceive_gated.bind _

theorem setBaudRate_gated (rate : UInt32) : Gated (setBaudRate rate) := by
  unfold setBaudRate
  exact Gated.device.bind _

/-- A latency of zero is refused in any session. -/
theorem setLatency_zero (s : Session) : setLatency 0 s =
    .done (.error (.invalidArgument "latency must be between 1 and 255"), s) := rfl

theorem setLatency_gated {ms : UInt8} (h : ms ≠ 0) : Gated (setLatency ms) := by
  unfold setLatency
  rw [if_neg h]
  exact controlOut_gated _ _

theorem latency_gated : Gated latency := by
  unfold latency
  exact Gated.device.bind _

theorem refill_gated : Gated refill := by
  unfold refill
  exact Gated.device.bind _

/-- To read no bytes succeeds in any session. -/
theorem readData_zero (s : Session) : readData 0 s = .done (.ok [], s) := rfl

theorem readData_gated {length : Nat} (h : length ≠ 0) : Gated (readData length) := by
  unfold readData
  rw [if_neg h]
  exact refill_gated.bind _

theorem setBitMode_gated (mask : UInt8) (mode : BitMode) : Gated (setBitMode mask mode) := by
  unfold setBitMode
  exact Gated.device.bind _

theorem setBitModeByte_gated (mask value : UInt8) : Gated (setBitModeByte mask value) := by
  unfold setBitModeByte
  exact Gated.device.bind _

theorem requireDriven_gated : Gated requireDriven := by
  unfold requireDriven
  exact Gated.device.bind _

theorem writePattern_gated (pattern : List UInt8) : Gated (writePattern pattern) := by
  unfold writePattern
  exact requireDriven_gated.bind _

theorem writeData_gated (value : UInt8) : Gated (writeData value) := by
  unfold writeData
  exact (writePattern_gated _).bind _

theorem readPins_gated : Gated readPins := by
  unfold readPins
  exact requireDriven_gated.bind _

theorem readEeprom_gated : Gated readEeprom := by
  unfold readEeprom
  exact Gated.device.bind _

theorem readEepromWord_gated (address : UInt16) : Gated (readEepromWord address) := by
  unfold readEepromWord
  exact Gated.device.bind _

theorem readChipId_gated : Gated readChipId := by
  unfold readChipId
  exact Gated.device.bind _

end Command

/-! ### All calls for a device -/

open Command

namespace Action

/-- Whether a call is for the open device. -/
def isForDevice : Action → Bool
  | mode | chip | ids | baudRate | packetSize | close | reset | purgeReceive | purgeTransmit | purge
  | setBaudRate _ | setLatency _ | latency | readData _ | setBitMode .. | setBitModeByte ..
  | disableBitMode | writeData _ | writePattern _ | readPins | readEeprom | readEepromWord _
  | readChipId => true
  | _ => false

/-- All calls for the open device are gated, but for two that have nothing to do or to set. -/
theorem gated_of_isForDevice {action : Action} (forDevice : action.isForDevice)
    (hread : action ≠ .readData 0) (hlatency : action ≠ .setLatency 0) :
    Gated action.perform := by
  cases action with
  | mode | chip | ids | baudRate | packetSize => exact Gated.device.map _
  | close => exact close_gated
  | reset => exact reset_gated
  | purgeReceive => exact purgeReceive_gated
  | purgeTransmit => exact purgeTransmit_gated
  | purge => exact purge_gated
  | setBaudRate rate => exact setBaudRate_gated rate
  | setLatency ms => exact setLatency_gated fun h => hlatency (congrArg _ h)
  | latency => exact latency_gated
  | readData length => exact readData_gated fun h => hread (congrArg _ h)
  | setBitMode mask mode => exact setBitMode_gated mask mode
  | setBitModeByte mask value => exact setBitModeByte_gated mask value
  | disableBitMode => exact setBitMode_gated 0 .reset
  | writeData value => exact writeData_gated value
  | writePattern pattern => exact writePattern_gated pattern
  | readPins => exact readPins_gated
  | readEeprom => exact readEeprom_gated
  | readEepromWord address => exact readEepromWord_gated address
  | readChipId => exact readChipId_gated
  | _ => cases forDevice

end Action

/-- **A call for a device where none is open** fails with that, makes no call on any bus and leaves
the session as it was, whatever its arguments. Just two calls do not: to read no bytes succeeds, and
a latency of zero is refused as such. -/
theorem device_call_unopened {s : Session} {action : Action} (closed : s.isOpen = false)
    (forDevice : action.isForDevice) :
    action.perform s = .done (.error .notOpen, s) ↔
      action ≠ .readData 0 ∧ action ≠ .setLatency 0 := by
  constructor
  · intro h
    constructor
    · rintro rfl
      cases (readData_zero s).symm.trans h
    · rintro rfl
      cases (setLatency_zero s).symm.trans h
  · rintro ⟨hread, hlatency⟩
    exact Action.gated_of_isForDevice forDevice hread hlatency closed

/-- A byte that selects no bit mode is not looked at in a session that has been closed. -/
theorem device_call_unopened_setBitModeByte :
    (Action.setBitModeByte 0xFF 0x03).perform ⟨.default, .closed, none⟩ =
      .done (.error .notOpen, ⟨.default, .closed, none⟩) :=
  (device_call_unopened rfl rfl).mpr ⟨by decide, by decide⟩

/-- In a session that has never been open, to read no bytes succeeds, and a latency of zero is an
invalid argument. -/
theorem device_call_unopened_answered :
    (Action.readData 0).perform ⟨.default, .unopened, none⟩ =
        .done (.ok [], ⟨.default, .unopened, none⟩) ∧
      (Action.setLatency 0).perform ⟨.default, .unopened, none⟩ =
        .done (.error (.invalidArgument "latency must be between 1 and 255"),
          ⟨.default, .unopened, none⟩) ∧
      ¬ ∀ action : Action, action.isForDevice →
        action.perform ⟨.default, .unopened, none⟩ =
          .done (.error .notOpen, ⟨.default, .unopened, none⟩) := by
  refine ⟨readData_zero _, setLatency_zero _, fun h => ?_⟩
  cases (readData_zero _).symm.trans (h (.readData 0) rfl)

end PinBridge
