import PinBridge.Proofs.Checked.Baud
import PinBridge.Proofs.Checked.Eeprom
import PinBridge.Proofs.Checked.Transfer
import PinBridge.Proofs.Session.Serving

/-!
# Operations in machine words

The operations of a session over the computations of the modules beside this one: an operation that
computes what has no result in machine words crashes. Most of them are the operations of the library
outright, whatever the session and the replies (`setBaudRate_eq`, `bulkWrite_eq`, `readEeprom_eq`,
and those built from them). Two rest on more: `stagedPart` on an image as a full read leaves it, and
`readData` on replies that have room in memory.
-/

namespace PinBridge.Checked

open Command

variable {α β σ : Type}

theorem need_some_bind {a : α} {f : α → Command β} : need (some a) >>= f = f a := rfl

/-! ### Rates -/

/-- Sets the baud rate to the nearest that the chip has, if it is near enough. -/
def setBaudRate (rate : UInt32) : Command Unit := do
  let d ← device
  let wanted := effectiveRate d.mode rate
  match ← need (ofRate? d.chip d.channel.index wanted) with
  | none => fail (.invalidArgument "baud rate must be > 0")
  | some setting =>
    if ← need (withinTolerance wanted setting.actual) then
      let s ← session
      ask (.controlOut d.handle Request.setBaudRate setting.value setting.index
        s.options.writeTimeout)
      update fun d => { d with baudRate := rate }
    else fail (.unsupportedBaudRate rate.toNat setting.actual)

/-- The rate to set up has 32 bits, as four times a rate stops at the largest number. -/
theorem effectiveRate_lt (mode : PinMode) (rate : UInt32) : effectiveRate mode rate < 2 ^ 32 := by
  have hrate := rate.toNat_lt
  unfold effectiveRate maxRate
  split
  · exact hrate
  · omega

/-- **Setting a rate stays within its words.** -/
theorem setBaudRate_eq (rate : UInt32) : setBaudRate rate = Command.setBaudRate rate := by
  unfold setBaudRate Command.setBaudRate
  refine congrArg (bind device) (funext fun d => ?_)
  have hrate := effectiveRate_lt d.mode rate
  simp only [ofRate?_eq d.chip d.channel.index hrate, need_some_bind]
  cases hsetting : Baud.Setting.ofRate? d.chip d.channel.index (effectiveRate d.mode rate) with
  | none => rfl
  | some setting => simp only [withinTolerance_eq hrate (actual_lt hsetting), need_some_bind]

/-- Opens a device. -/
def openDevice (d : Descriptor) : Command Unit := do
  requireNotOpen
  let before ← session
  let handle ← ask (.openDevice d before.options.interface)
  let fresh := OpenDevice.fresh d handle before.options.interface.channel
  setLink (.opened fresh)
  recover
    (do
      reset
      setBaudRate initialRate)
    fun e => do
      note (.openFailed d e)
      setLink before.link
      giveBack handle
      fail e
  forgetStaged
  note (.opened d fresh.chip fresh.packetSize)

/-- Opens the first device with the IDs. -/
def openIds (vendor product : UInt16) : Command Unit := do
  requireNotOpen
  match ← findAll vendor product with
  | [] => fail .deviceNotFound
  | d :: _ => openDevice d

/-- Opens the device that a filter describes. -/
def openFilter (f : Filter) : Command Unit := do
  requireNotOpen
  let d ← findDevice f
  openDevice d

theorem openDevice_eq (d : Descriptor) : openDevice d = Command.openDevice d := by
  unfold openDevice Command.openDevice
  rw [setBaudRate_eq]

theorem openIds_eq (vendor product : UInt16) :
    openIds vendor product = Command.openIds vendor product := by
  unfold openIds Command.openIds
  refine congrArg (bind requireNotOpen) (funext fun _ => ?_)
  refine congrArg (bind (findAll vendor product)) (funext fun found => ?_)
  cases found with
  | nil => rfl
  | cons d _ => exact openDevice_eq d

theorem openFilter_eq (f : Filter) : openFilter f = Command.openFilter f := by
  unfold openFilter Command.openFilter
  simp only [openDevice_eq]

/-! ### Writing -/

/-- Writes bytes to the open device and tells how many it has taken. -/
def bulkWrite (data : List UInt8) : Command Nat := do
  let d ← device
  fun s => (sendAll d s.options.writeChunk s.options.writeTimeout data 0).bind fun r => .done (r, s)

/-- Writes one byte after the other to the pins and tells how many were taken. -/
def writePattern (pattern : List UInt8) : Command Nat := do
  requireDriven
  bulkWrite pattern

/-- Writes a byte to the pins. -/
def writeData (value : UInt8) : Command Unit := do
  let _ ← writePattern [value]

/-- **Writing stays within the bytes to write.** -/
theorem bulkWrite_eq (data : List UInt8) : bulkWrite data = Command.bulkWrite data := by
  unfold bulkWrite Command.bulkWrite
  simp only [sendAll_eq, List.drop_zero]

theorem writePattern_eq (pattern : List UInt8) :
    writePattern pattern = Command.writePattern pattern := by
  unfold writePattern Command.writePattern
  rw [bulkWrite_eq]

theorem writeData_eq (value : UInt8) : writeData value = Command.writeData value := by
  unfold writeData Command.writeData
  rw [writePattern_eq]

/-! ### The memory of the chip -/

/-- Reads the EEPROM and stages its image. -/
def readEeprom : Command Unit := do
  let d ← device
  let raw ← readWords 0 (Eeprom.fullSize / 2)
  let image ← need (stage raw d.chip)
  modify fun s => { s with staged := some image }
  note (.staged image.size image.blank)

/-- **A full read stages within its bytes**, since it has all of them. -/
theorem readEeprom_eq : readEeprom = Command.readEeprom := by
  unfold readEeprom Command.readEeprom
  refine congrArg (bind device) (funext fun d => ?_)
  have words : Yields (fun _ => True) (fun bytes => bytes.length = 2 * 128) (readWords 0 128) :=
    readWords_yields _ _
  refine words.bind_congr fun raw hraw => ?_
  rw [stage_eq hraw, need_some_bind]

/-- The bytes of the staged image; none where nothing is staged. -/
def stagedBytes (s : Session) : Option (List UInt8) :=
  match s.staged with
  | some image => bytes image
  | none => some []

/-- The first bytes of the staged image. -/
def stagedPart (size : Nat) : Command (List UInt8) := do
  let bytes ← need (stagedBytes (← session))
  if bytes.length < size then fail (.sizeMismatch size bytes.length)
  else need (slice bytes 0 size)

/-- What a session has staged is as a full read leaves it. -/
def StagedAsRead (s : Session) : Prop := ∀ image, s.staged = some image → Staged image

theorem stagedBytes_eq {s : Session} (h : StagedAsRead s) : stagedBytes s = some s.stagedBytes := by
  unfold stagedBytes Session.stagedBytes
  cases hstaged : s.staged with
  | some image => exact (h image hstaged).bytes_eq
  | none => rfl

theorem stagedPart_eq {s : Session} (h : StagedAsRead s) (size : Nat) :
    stagedPart size s = Command.stagedPart size s := by
  change (need (stagedBytes s) >>= _ : Command _) s = (if _ then _ else _ : Command _) s
  rw [stagedBytes_eq h, need_some_bind]
  split
  · rfl
  · next hlong =>
    rw [slice_zero (Nat.le_of_not_lt hlong)]
    rfl

/-! ### Receiving -/

/-- Asks the device for a chunk where no bytes are at hand. -/
def refill : Command Unit := do
  let d ← device
  if d.pending.isEmpty then
    let s ← session
    let length ← need (wholePackets? s.options.readChunk (max d.packetSize 1))
    let reply ← ask (.bulkRead d.handle d.channel.inEndpoint length s.options.readTimeout)
    let (buffer, n) ← need (strip d.packetSize reply)
    update fun d => { d with pending := buffer.take n }

/-- Takes bytes that are at hand for a buffer of some length. -/
def take (length : Nat) : Command (List UInt8) := do
  let d ← device
  let n := min d.pending.length length
  let _ ← need (sub length n)
  let taken ← need (slice d.pending 0 n)
  let rest ← need (slice d.pending n d.pending.length)
  update fun d => { d with pending := rest }
  return taken

/-- Reads at most so many bytes. -/
def readData (length : Nat) : Command (List UInt8) := do
  if length = 0 then return []
  refill
  take length

/-- **An event whose data has room in memory**: a packet size has 64 bits, and the bytes of a reply
are fewer than half of all that can be counted. -/
def Roomy : Event → Prop
  | .asked (.openDevice ..) (.ok handle) => ∀ size, handle.packetSize = some size → size < 2 ^ 64
  | .asked (.bulkRead ..) (.ok data) => data.length < 2 ^ 63
  | _ => True

/-- What is taken is at hand, and so is what is left. -/
theorem take_eq (length : Nat) : take length = do
    let d ← device
    update fun d => { d with pending := d.pending.drop length }
    return d.pending.take length := by
  funext ⟨options, link, staged⟩
  cases link with
  | unopened | closed => rfl
  | opened d =>
    have hn : min d.pending.length length ≤ d.pending.length := Nat.min_le_left _ _
    have htake : d.pending.take (min d.pending.length length) = d.pending.take length := by
      rw [Nat.min_comm, ← List.take_eq_take_min]
    have hdrop : d.pending.drop (min d.pending.length length) = d.pending.drop length := by
      rcases Nat.le_total d.pending.length length with hle | hle
      · rw [Nat.min_eq_left hle, List.drop_length, List.drop_eq_nil_of_le hle]
      · rw [Nat.min_eq_right hle]
    change (need (sub _ _) >>= _ : Command _) _ = _
    simp only [sub_of_le (Nat.min_le_right _ _), slice_zero hn, slice_of_le hn (Nat.le_refl _),
      need_some_bind, List.take_length, htake, hdrop]
    rfl

/-- **Filling up stays within the reply**, on a bus whose replies have room. -/
theorem refill_run {bus : Bus σ} (answers : bus.Answers Roomy) {s : Session}
    (hsize : ∀ d, s.link = .opened d → d.packetSize < 2 ^ 64) (world : σ) :
    (refill s).run bus world = (Command.refill s).run bus world := by
  obtain ⟨options, link, staged⟩ := s
  cases link with
  | unopened | closed => rfl
  | opened d =>
    change (Program.run bus ((if d.pending.isEmpty then _ else _ : Command Unit) _) world) =
      Program.run bus ((if d.pending.isEmpty then _ else _ : Command Unit) _) world
    split
    · change (Program.run bus ((need _ >>= _ : Command Unit) _) world) =
        Program.run bus ((need _ >>= _ : Command Unit) _) world
      cases wholePackets? options.readChunk (max d.packetSize 1) with
      | none => rfl
      | some asked =>
        refine Program.run_call_congr answers world fun reply after hroomy => ?_
        cases reply with
        | error e => rfl
        | ok data =>
          change Program.run bus ((need (strip d.packetSize data) >>= _ : Command Unit) _) after = _
          rw [strip_eq (hsize d rfl) hroomy, need_some_bind]
          rfl
    · rfl

theorem readData_run {bus : Bus σ} (answers : bus.Answers Roomy) {s : Session}
    (hsize : ∀ d, s.link = .opened d → d.packetSize < 2 ^ 64) (length : Nat) (world : σ) :
    (readData length s).run bus world = (Command.readData length s).run bus world := by
  unfold readData Command.readData
  rw [take_eq]
  split
  · rfl
  · change (((refill s).bind _).run bus world) = ((Command.refill s).bind _).run bus world
    rw [Program.run_bind, Program.run_bind, refill_run answers hsize]

end PinBridge.Checked
